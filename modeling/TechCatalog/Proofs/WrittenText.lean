import Mathlib.Tactic.SplitIfs
import TechCatalog.Json.Reader
import TechCatalog.Json.Writer

/-!
# Texts in documents

A text is written character by character, and read back by way of the numbers of its characters.
A character has one number, or two halves where all that is not ASCII is escaped; `unitsOf` are
these numbers. Reading what is written of a character gives its numbers, joining them gives the
character, and so a text is read back as what it was. Where everything is escaped, what is written
is printable ASCII.
-/

namespace TechCatalog.Json

/-- The numbers that are written for a character. -/
def unitsOf (ascii : Bool) (c : Char) : List Nat :=
  if ascii ∧ 0x10000 ≤ c.toNat then
    [0xD800 + (c.toNat - 0x10000) / 0x400, 0xDC00 + (c.toNat - 0x10000) % 0x400]
  else [c.toNat]

/-- A character that ASCII shows as it is. -/
def IsVisible (c : Char) : Prop :=
  0x20 ≤ c.toNat ∧ c.toNat < 0x7F
  deriving Decidable

theorem char_valid (c : Char) : c.toNat < 0xD800 ∨ 0xDFFF < c.toNat ∧ c.toNat < 0x110000 :=
  c.valid

theorem hexValue_hexDigit : ∀ k < 16, hexValue? (Text.hexDigit k) = some k := by
  decide

theorem isVisible_hexDigit : ∀ k < 16, IsVisible (Text.hexDigit k) := by
  decide

theorem hexDigits_four (n : Nat) : Text.hexDigits 4 n =
    [Text.hexDigit (n / 16 / 16 / 16 % 16), Text.hexDigit (n / 16 / 16 % 16),
      Text.hexDigit (n / 16 % 16), Text.hexDigit (n % 16)] := rfl

/-- The escape of a number is read as the number. -/
theorem readUnits_unitEscape {n : Nat} (hn : n < 0x10000) (start : Nat) (done : List Nat)
    {s : List Char} (hs : s ≠ []) :
    readUnits start done (unitEscape n ++ s) = readUnits start (n :: done) s := by
  have hvalue (k : Nat) : hexValue? (Text.hexDigit (k % 16)) = some (k % 16) :=
    hexValue_hexDigit _ (Nat.mod_lt k (by decide))
  have hquad : hexQuad? (Text.hexDigit (n / 16 / 16 / 16 % 16))
      (Text.hexDigit (n / 16 / 16 % 16)) (Text.hexDigit (n / 16 % 16))
      (Text.hexDigit (n % 16)) = some n := by
    simp only [hexQuad?, hvalue, Option.some.injEq]
    omega
  rw [unitEscape, hexDigits_four]
  simp only [List.cons_append, List.nil_append]
  rw [readUnits, hquad]
  -- An escape that nothing follows leaves the text without its closing quote.
  exact if_neg (by simpa using hs)

/-- A character that needs no escape is read as its number. -/
theorem readUnits_plain {c : Char} (hquote : c ≠ '"') (hslash : c ≠ '\\') (hc : 0x20 ≤ c.toNat)
    (start : Nat) (done : List Nat) (s : List Char) :
    readUnits start done (c :: s) = readUnits start (c.toNat :: done) s := by
  rw [readUnits]
  · exact if_neg (Nat.not_lt.mpr hc)
  all_goals simp [hquote, hslash]

theorem readUnits_shortEscape {e x : Char} (hu : e ≠ 'u') (he : shortEscape? e = some x)
    (start : Nat) (done : List Nat) (s : List Char) :
    readUnits start done ('\\' :: e :: s) = readUnits start (x.toNat :: done) s := by
  rw [readUnits, if_neg hu, he]
  simp [hu]

/-- The ways in which a character is written: by one letter, by its number, as it is, or as two
halves. -/
inductive Escape (ascii : Bool) (c : Char) : List Char → Prop
  | short {e : Char} (hplane : c.toNat < 0x10000) (hu : e ≠ 'u') (hvisible : IsVisible e)
      (he : shortEscape? e = some c) : Escape ascii c ['\\', e]
  | number (hplane : c.toNat < 0x10000) : Escape ascii c (unitEscape c.toNat)
  | plain (hquote : c ≠ '"') (hslash : c ≠ '\\') (hcontrol : 0x20 ≤ c.toNat)
      (hascii : ascii = true → c.toNat < 0x7F) : Escape ascii c [c]
  | halves (hascii : ascii = true) (hplane : 0x10000 ≤ c.toNat) :
      Escape ascii c (unitEscape (0xD800 + (c.toNat - 0x10000) / 0x400) ++
        unitEscape (0xDC00 + (c.toNat - 0x10000) % 0x400))

theorem escape_escapedChar (ascii : Bool) (c : Char) : Escape ascii c (escapedChar ascii c) := by
  have hnumber {n : Nat} (hn : c.toNat = n) : c = Char.ofNat n := by
    rw [← hn, Char.ofNat_toNat]
  rw [escapedChar]
  split_ifs with hquote hback hfeed hline hreturn htab hcontrol hraw hplane
  · obtain rfl | rfl := hquote
    · exact .short (by decide) (by decide) (by decide) rfl
    · exact .short (by decide) (by decide) (by decide) rfl
  · exact .short (by omega) (by decide) (by decide) (by rw [hnumber hback]; rfl)
  · exact .short (by omega) (by decide) (by decide) (by rw [hnumber hfeed]; rfl)
  · subst hline
    exact .short (by decide) (by decide) (by decide) rfl
  · subst hreturn
    exact .short (by decide) (by decide) (by decide) rfl
  · subst htab
    exact .short (by decide) (by decide) (by decide) rfl
  · exact .number (by omega)
  · rw [not_or] at hquote
    refine .plain hquote.1 hquote.2 (Nat.le_of_not_lt hcontrol) fun hascii => ?_
    simpa [hascii] using hraw
  · exact .number hplane
  · simp only [Bool.or_eq_true, Bool.not_eq_true', not_or, Bool.not_eq_false] at hraw
    exact .halves hraw.1 (Nat.le_of_not_lt hplane)

/-- Reading what is written of a character gives its numbers. -/
theorem Escape.readUnits_eq {ascii : Bool} {c : Char} {w : List Char} (h : Escape ascii c w)
    (start : Nat) (done : List Nat) {s : List Char} (hs : s ≠ []) :
    readUnits start done (w ++ s) =
      readUnits start ((unitsOf ascii c).reverse ++ done) s := by
  have hvalid := char_valid c
  cases h with
  | short hplane hu _ he =>
    rw [unitsOf, if_neg (by omega)]
    exact readUnits_shortEscape hu he start done s
  | number hplane =>
    rw [unitsOf, if_neg (by omega)]
    exact readUnits_unitEscape hplane start done hs
  | plain hquote hslash hcontrol hascii =>
    have hone : ¬ (ascii = true ∧ 0x10000 ≤ c.toNat) := by
      rintro ⟨htrue, hplane⟩
      have hlow := hascii htrue
      omega
    rw [unitsOf, if_neg hone]
    exact readUnits_plain hquote hslash hcontrol start done s
  | halves hascii hplane =>
    rw [unitsOf, if_pos ⟨hascii, hplane⟩, List.append_assoc,
      readUnits_unitEscape (by omega) _ _ (by simp [unitEscape]),
      readUnits_unitEscape (by omega) _ _ hs]
    rfl

/-- Joining the numbers of a character gives the character. -/
theorem joinUnits_unitsOf (half? : Nat → Option Char) (ascii : Bool) (c : Char) (done : List Char)
    (units : List Nat) :
    joinUnits half? done (unitsOf ascii c ++ units) = joinUnits half? (c :: done) units := by
  have hvalid := char_valid c
  by_cases hbig : ascii = true ∧ 0x10000 ≤ c.toNat
  · have hunits : unitsOf ascii c = [0xD800 + (c.toNat - 0x10000) / 0x400,
        0xDC00 + (c.toNat - 0x10000) % 0x400] := if_pos hbig
    have hhigh : isHighHalf (0xD800 + (c.toNat - 0x10000) / 0x400) = true := by
      simp [isHighHalf]
      omega
    have hlow : isLowHalf (0xDC00 + (c.toNat - 0x10000) % 0x400) = true := by
      simp [isLowHalf]
      omega
    have hjoin : joinHalves (0xD800 + (c.toNat - 0x10000) / 0x400)
        (0xDC00 + (c.toNat - 0x10000) % 0x400) = c := by
      have hsum : 0x10000 + (0xD800 + (c.toNat - 0x10000) / 0x400 - 0xD800) * 0x400 +
          (0xDC00 + (c.toNat - 0x10000) % 0x400 - 0xDC00) = c.toNat := by
        omega
      rw [joinHalves, hsum, Char.ofNat_toNat]
    rw [hunits, List.cons_append, List.cons_append, List.nil_append, joinUnits, hhigh, hlow, hjoin]
    rfl
  · have hunits : unitsOf ascii c = [c.toNat] := if_neg hbig
    have hhigh : isHighHalf c.toNat = false := by
      simp [isHighHalf]
      omega
    have hchar : unitChar? half? c.toNat = some c := by
      rw [unitChar?, if_neg (by simp; omega), Char.ofNat_toNat]
    rw [hunits, List.singleton_append]
    cases units with
    | nil => simp [joinUnits, hchar]
    | cons m rest => simp [joinUnits, hhigh, hchar]

/-- What is written of a text is read up to its closing quote. -/
theorem readUnits_written (ascii : Bool) (cs : List Char) (start : Nat) (done : List Nat)
    (rest : List Char) : readUnits start done (cs.flatMap (escapedChar ascii) ++ '"' :: rest) =
      .ok (done.reverse ++ cs.flatMap (unitsOf ascii), rest) := by
  induction cs generalizing done with
  | nil => simp [readUnits]
  | cons c cs ih =>
    have hne : cs.flatMap (escapedChar ascii) ++ '"' :: rest ≠ [] := by simp
    rw [List.flatMap_cons, List.append_assoc,
      (escape_escapedChar ascii c).readUnits_eq start done hne, ih]
    simp

theorem joinUnits_written (half? : Nat → Option Char) (ascii : Bool) (cs done : List Char) :
    joinUnits half? done (cs.flatMap (unitsOf ascii)) = some (done.reverse ++ cs) := by
  induction cs generalizing done with
  | nil => simp [joinUnits]
  | cons c cs ih =>
    rw [List.flatMap_cons, joinUnits_unitsOf, ih]
    simp

theorem writeText_append (ascii : Bool) (s : String) (rest : List Char) :
    writeText ascii s ++ rest =
      '"' :: (s.toList.flatMap (escapedChar ascii) ++ '"' :: rest) := by
  simp [writeText]

/-- A text is read back as what it was, whatever its characters are. -/
theorem readText_written (half? : Nat → Option Char) (ascii : Bool) (s : String) (start : Nat)
    (rest : List Char) :
    readText half? start (s.toList.flatMap (escapedChar ascii) ++ '"' :: rest) =
      .ok (s, rest) := by
  simp [readText, readUnits_written, joinUnits_written]

theorem isVisible_unitEscape {n : Nat} {x : Char} (hx : x ∈ unitEscape n) : IsVisible x := by
  have hdigit (k : Nat) : IsVisible (Text.hexDigit (k % 16)) :=
    isVisible_hexDigit _ (Nat.mod_lt k (by decide))
  rw [unitEscape, hexDigits_four] at hx
  simp only [List.mem_cons, List.not_mem_nil, or_false] at hx
  obtain rfl | rfl | rfl | rfl | rfl | rfl := hx
  · decide
  · decide
  all_goals exact hdigit _

/-- Where everything is escaped, what is written of a character is printable ASCII. -/
theorem Escape.isVisible {c x : Char} {w : List Char} (h : Escape true c w) (hx : x ∈ w) :
    IsVisible x := by
  have hslash : IsVisible '\\' := by decide
  cases h with
  | short _ _ hvisible _ =>
    simp only [List.mem_cons, List.not_mem_nil, or_false] at hx
    obtain rfl | rfl := hx
    · exact hslash
    · exact hvisible
  | number _ => exact isVisible_unitEscape hx
  | plain _ _ hcontrol hascii =>
    rw [List.mem_singleton] at hx
    subst hx
    exact ⟨hcontrol, hascii rfl⟩
  | halves _ _ =>
    rw [List.mem_append] at hx
    exact hx.elim isVisible_unitEscape isVisible_unitEscape

theorem isVisible_writeText {s : String} {x : Char} (hx : x ∈ writeText true s) :
    IsVisible x := by
  have hquote : IsVisible '"' := by decide
  rw [writeText, List.mem_append, List.mem_cons, List.mem_flatMap, List.mem_singleton] at hx
  obtain (rfl | ⟨c, -, hc⟩) | rfl := hx
  · exact hquote
  · exact (escape_escapedChar true c).isVisible hc
  · exact hquote

end TechCatalog.Json
