import Mathlib.Data.List.Basic
import TechCatalog.Proofs.ObjectMembers
import TechCatalog.Proofs.WrittenText

/-!
# Documents read back

A document that was written is read back as what it was, if `Storable` holds of it: its numbers are
integers that are not too long, no key of an object stands twice, and it is not nested too deeply.
The reader of a part leaves all that follows it. Only the end of a numeral depends on what follows,
and neither a comma nor a closing bracket goes on with one. In a layout that is printable, the whole
document is printable ASCII.
-/

namespace TechCatalog.Json

/-- A document in which at most `depth` arrays and objects are open at once. Its numbers are
integers with no more digits than a reader takes, and no key of an object stands twice. -/
inductive Storable : Nat → Json → Prop
  | null (depth : Nat) : Storable depth .null
  | bool (depth : Nat) (b : Bool) : Storable depth (.bool b)
  | int (depth : Nat) {i : Int} (hdigits : (Nat.toDigits 10 i.natAbs).length ≤ Decimal.digitLimit) :
      Storable depth (.int i)
  | str (depth : Nat) (s : String) : Storable depth (.str s)
  | arr {depth : Nat} {items : List Json} (hitems : ∀ v ∈ items, Storable depth v) :
      Storable (depth + 1) (.arr items)
  | obj {depth : Nat} {members : Members} (hkeys : (members.map (·.1)).Nodup)
      (hvalues : ∀ m ∈ members, Storable depth m.2) : Storable (depth + 1) (.obj members)

theorem Storable.mono {depth limit : Nat} {v : Json} (h : Storable depth v) (hle : depth ≤ limit) :
    Storable limit v := by
  induction h generalizing limit with
  | null depth => exact .null limit
  | bool depth b => exact .bool limit b
  | int depth hdigits => exact .int limit hdigits
  | str depth s => exact .str limit s
  | arr hitems ih =>
    obtain ⟨limit, rfl⟩ : ∃ n, limit = n + 1 := ⟨limit - 1, by omega⟩
    exact .arr fun v hv => ih v hv (Nat.le_of_succ_le_succ hle)
  | obj hkeys hvalues ih =>
    obtain ⟨limit, rfl⟩ : ∃ n, limit = n + 1 := ⟨limit - 1, by omega⟩
    exact .obj hkeys fun m hm => ih m hm (Nat.le_of_succ_le_succ hle)

/-- Nothing at the front goes on with the numeral of an integer. -/
def EndsNumeral (s : List Char) : Prop :=
  ∀ c ∈ s.head?, Decimal.isDigit c = false ∧ c ≠ '.' ∧ c ≠ 'e' ∧ c ≠ 'E'

section

variable {n : Nat} {s rest : List Char} {half? : Nat → Option Char}

theorem isDigit_of_mem_toDigits {c : Char} (hc : c ∈ Nat.toDigits 10 n) :
    Decimal.isDigit c = true :=
  Nat.isDigit_of_mem_toDigits (by decide) (by decide) hc

theorem toDigits_eq_cons (n : Nat) :
    ∃ d ds, Nat.toDigits 10 n = d :: ds ∧ Decimal.isDigit d = true := by
  obtain ⟨d, ds, hds⟩ := List.exists_cons_of_ne_nil (Nat.toDigits_ne_nil (b := 10) (n := n))
  exact ⟨d, ds, hds, isDigit_of_mem_toDigits (hds ▸ List.mem_cons_self)⟩

/-- The numeral of a number that is not zero does not begin with a zero. -/
theorem head?_toDigits_ne (hn : 0 < n) : (Nat.toDigits 10 n).head? ≠ some '0' := by
  induction n using Nat.strongRecOn with
  | ind n ih =>
    by_cases hsmall : n < 10
    · have hdigit : ∀ k < 10, 0 < k → Nat.digitChar k ≠ '0' := by decide
      rw [Nat.toDigits_of_lt_base hsmall, List.head?_cons, ne_eq, Option.some.injEq]
      exact hdigit n hsmall hn
    · rw [Nat.toDigits_of_base_le (by decide) (by omega),
        List.head?_append_of_ne_nil _ Nat.toDigits_ne_nil]
      exact ih (n / 10) (by omega) (by omega)

theorem natOfDigits_toDigits (n : Nat) : Decimal.natOfDigits (Nat.toDigits 10 n) = n :=
  Nat.ofDigitChars_toDigits (by decide) (by decide)

theorem splitFraction_of_ends (h : EndsNumeral rest) : splitFraction rest = none := by
  cases rest with
  | nil => rfl
  | cons c rest =>
    have hpoint : c ≠ '.' := (h c rfl).2.1
    rw [splitFraction]
    intro d tail heq
    exact hpoint (List.cons.inj heq).1

theorem splitExponent_of_ends (h : EndsNumeral rest) : splitExponent rest = none := by
  cases rest with
  | nil => rfl
  | cons c rest =>
    obtain ⟨-, -, he, hE⟩ := h c rfl
    rw [splitExponent, if_neg (by simp [he, hE])]

theorem takeWhile_toDigits (h : EndsNumeral rest) :
    (Nat.toDigits 10 n ++ rest).takeWhile Decimal.isDigit = Nat.toDigits 10 n := by
  rw [List.takeWhile_append_of_pos fun c => isDigit_of_mem_toDigits]
  cases rest with
  | nil => simp
  | cons c rest => simp [(h c rfl).1]

/-- The numeral of a number that is not too long is read as the number. -/
theorem readNumeral_written (hdigits : (Nat.toDigits 10 n).length ≤ Decimal.digitLimit)
    (h : EndsNumeral rest) (start : Nat) (negative : Bool) :
    readNumeral start negative (Nat.toDigits 10 n ++ rest) =
      .ok (.int (if negative then -n else n), rest) := by
  have hfraction := splitFraction_of_ends h
  have hexponent := splitExponent_of_ends h
  obtain rfl | hn := Nat.eq_zero_or_pos n
  · rw [Nat.toDigits_zero, List.cons_append, readNumeral]
    simp [hfraction, hexponent, Decimal.digitLimit, Decimal.natOfDigits]
  · have hzero : ∀ tail, Nat.toDigits 10 n ++ rest ≠ '0' :: tail := by
      intro tail heq
      apply head?_toDigits_ne hn
      rw [← List.head?_append_of_ne_nil _ Nat.toDigits_ne_nil, heq, List.head?_cons]
    have hne : Nat.toDigits 10 n ≠ [] := Nat.toDigits_ne_nil
    rw [readNumeral, takeWhile_toDigits h]
    · simp [hne, hfraction, hexponent, natOfDigits_toDigits, Nat.not_lt.mpr hdigits]
    · exact hzero

theorem toList_toString (i : Int) : (toString i).toList =
    (if i < 0 then ['-'] else []) ++ Nat.toDigits 10 i.natAbs := by
  cases i with
  | ofNat n =>
    rw [if_neg (by simp)]
    exact Nat.toList_repr
  | negSucc n =>
    rw [if_pos (Int.negSucc_lt_zero n)]
    simp [Int.toString_eq_repr, Int.repr]

theorem ne_of_isDigit {d c : Char} (hd : Decimal.isDigit d = true)
    (hc : Decimal.isDigit c = false) : d ≠ c := by
  rintro rfl
  rw [hd] at hc
  exact Bool.noConfusion hc

theorem readValue_scalar {c : Char} (harray : c ≠ '[') (hobject : c ≠ '\x7b') (depth : Nat) :
    readValue half? depth (c :: s) = readScalar half? (c :: s) := by
  rw [readValue]
  all_goals simp [harray, hobject]

theorem readValue_digit {d : Char} (hd : Decimal.isDigit d = true) (depth : Nat) :
    readValue half? depth (d :: s) = readNumeral (s.length + 1) false (d :: s) := by
  rw [readValue_scalar (ne_of_isDigit hd (by decide)) (ne_of_isDigit hd (by decide)), readScalar]
  · rfl
  all_goals simp (disch := decide) [ne_of_isDigit hd]

theorem readValue_minus {d : Char} (hd : Decimal.isDigit d = true) (depth : Nat) :
    readValue half? depth ('-' :: d :: s) = readNumeral (s.length + 2) true (d :: s) := by
  rw [readValue_scalar (by decide) (by decide), readScalar]
  · rfl
  all_goals simp (disch := decide) [ne_of_isDigit hd]

theorem readValue_int {i : Int} (hdigits : (Nat.toDigits 10 i.natAbs).length ≤ Decimal.digitLimit)
    (h : EndsNumeral rest) (depth : Nat) :
    readValue half? depth ((toString i).toList ++ rest) = .ok (.int i, rest) := by
  have hread := readNumeral_written hdigits h
  obtain ⟨d, ds, hds, hd⟩ := toDigits_eq_cons i.natAbs
  rw [hds] at hread
  rw [toList_toString, hds]
  by_cases hi : i < 0
  · have hvalue : -(i.natAbs : Int) = i := by omega
    rw [if_pos hi, List.singleton_append, List.cons_append, List.cons_append, readValue_minus hd]
    have hminus := hread ((ds ++ rest).length + 2) true
    rw [if_pos rfl, hvalue] at hminus
    exact hminus
  · have hvalue : (i.natAbs : Int) = i := by omega
    rw [if_neg hi, List.nil_append, List.cons_append, readValue_digit hd]
    have hplus := hread ((ds ++ rest).length + 1) false
    rw [if_neg Bool.false_ne_true, hvalue] at hplus
    exact hplus

end

/-- What can stand at the front of an item: no white space and no closing bracket. -/
def BeginsItem (s : List Char) : Prop :=
  ∃ c t, s = c :: t ∧ isGap c = false ∧ c ≠ ']'

/-- A reader of values reads back a value that was written, whatever follows it. -/
structure ReadsBack (layout : Layout) (value : List Char → Scan Json) (v : Json) : Prop where
  begins : BeginsItem (writeChars layout v)
  reads : ∀ rest, EndsNumeral rest → value (writeChars layout v ++ rest) = .ok (v, rest)

/-- A separator is one character with white space after it. -/
def Separates (c : Char) (separator : String) : Prop :=
  ∃ gaps, separator.toList = c :: gaps ∧ ∀ x ∈ gaps, isGap x = true

/-- A layout whose separators are a comma and a colon. -/
structure Layout.IsReadable (layout : Layout) : Prop where
  comma : Separates ',' layout.comma
  colon : Separates ':' layout.colon

section

variable {layout : Layout} {value : List Char → Scan Json} {s rest : List Char}
  {half? : Nat → Option Char}

theorem writeItems_cons_cons (v w : Json) (vs : List Json) : writeItems layout (v :: w :: vs) =
    writeChars layout v ++ layout.comma.toList ++ writeItems layout (w :: vs) := by
  rfl

theorem writeMembers_cons_cons (key : String) (v : Json) (m : String × Json) (ms : Members) :
    writeMembers layout ((key, v) :: m :: ms) = writeText layout.ascii key ++
      layout.colon.toList ++ writeChars layout v ++ layout.comma.toList ++
        writeMembers layout (m :: ms) := by
  rfl

theorem skipGaps_cons {c : Char} (hc : isGap c = false) : skipGaps (c :: s) = c :: s :=
  List.dropWhile_cons_of_neg (by simp [hc])

theorem skipGaps_append {gaps : List Char} (hgaps : ∀ x ∈ gaps, isGap x = true) :
    skipGaps (gaps ++ s) = skipGaps s :=
  List.dropWhile_append_of_pos hgaps

theorem BeginsItem.append (h : BeginsItem s) (t : List Char) : BeginsItem (s ++ t) := by
  obtain ⟨c, u, rfl, hgap, hbracket⟩ := h
  exact ⟨c, u ++ t, rfl, hgap, hbracket⟩

theorem BeginsItem.skipGaps_eq (h : BeginsItem s) : skipGaps s = s := by
  obtain ⟨c, u, rfl, hgap, -⟩ := h
  exact skipGaps_cons hgap

theorem beginsItem_writeItems {v : Json} (h : BeginsItem (writeChars layout v))
    (vs : List Json) : BeginsItem (writeItems layout (v :: vs)) := by
  cases vs with
  | nil => exact h
  | cons w vs =>
    rw [writeItems_cons_cons, List.append_assoc]
    exact h.append _

theorem exists_writeMembers (layout : Layout) (m : String × Json) (ms : Members) :
    ∃ t, writeMembers layout (m :: ms) = '"' :: t := by
  cases ms with
  | nil => exact ⟨_, rfl⟩
  | cons next ms => exact ⟨_, rfl⟩

theorem beginsItem_writeMembers (m : String × Json) (ms : Members) :
    BeginsItem (writeMembers layout (m :: ms)) := by
  obtain ⟨t, ht⟩ := exists_writeMembers layout m ms
  exact ⟨'"', t, ht, by decide, by decide⟩

/-- No separator and no closing bracket goes on with a numeral. -/
theorem endsNumeral_cons {c : Char} (hc : c ∈ [',', ']', '\x7d']) : EndsNumeral (c :: s) := by
  intro x hx
  obtain rfl : c = x := Option.some.inj hx
  simp only [List.mem_cons, List.not_mem_nil, or_false] at hc
  obtain rfl | rfl | rfl := hc <;> decide

/-- Items that were written are read up to the closing bracket. -/
theorem readItems_written (hlayout : layout.IsReadable) {items : List Json}
    (hitems : ∀ v ∈ items, ReadsBack layout value v) (hne : items ≠ []) {fuel : Nat}
    (hfuel : items.length ≤ fuel) (done : List Json) (rest : List Char) :
    readItems value fuel done (writeItems layout items ++ ']' :: rest) =
      .ok (.arr (done.reverse ++ items), rest) := by
  obtain ⟨gaps, hseparator, hgaps⟩ := hlayout.comma
  induction items generalizing fuel done with
  | nil => exact absurd rfl hne
  | cons v items ih =>
    rw [List.forall_mem_cons] at hitems
    rw [List.length_cons] at hfuel
    obtain ⟨fuel, rfl⟩ : ∃ n, fuel = n + 1 := ⟨fuel - 1, by omega⟩
    cases items with
    | nil =>
      have hread := hitems.1.reads (']' :: rest) (endsNumeral_cons (by decide))
      rw [readItems, writeItems, hread]
      simp [skipGaps_cons (c := ']') (by decide)]
    | cons w items =>
      have hbegins := beginsItem_writeItems (hitems.2 w List.mem_cons_self).begins items
      have hread := hitems.1.reads
        (',' :: (gaps ++ (writeItems layout (w :: items) ++ ']' :: rest)))
        (endsNumeral_cons (by decide))
      have hmore := ih hitems.2 (List.cons_ne_nil _ _) (Nat.le_of_succ_le_succ hfuel) (v :: done)
      have hwritten : writeItems layout (v :: w :: items) ++ ']' :: rest = writeChars layout v ++
          ',' :: (gaps ++ (writeItems layout (w :: items) ++ ']' :: rest)) := by
        rw [writeItems_cons_cons, hseparator]
        simp
      rw [readItems, hwritten, hread]
      simp only [skipGaps_cons (c := ',') (by decide), skipGaps_append hgaps,
        (hbegins.append _).skipGaps_eq, hmore]
      simp

/-- A member that was written is read and goes to the end; what follows it says whether more
members are read. -/
theorem readMembers_member (half? : Nat → Option Char) (hcolon : Separates ':' layout.colon)
    {v : Json} (hv : ReadsBack layout value v) {key : String} {done : Members}
    (hkey : key ∉ done.map (·.1)) (fuel : Nat) (t : List Char) :
    readMembers half? value (fuel + 1) done (writeText layout.ascii key ++ layout.colon.toList ++
      writeChars layout v ++ '\x7d' :: t) = .ok (.obj (done ++ [(key, v)]), t) ∧
    readMembers half? value (fuel + 1) done (writeText layout.ascii key ++ layout.colon.toList ++
      writeChars layout v ++ ',' :: t) =
        readMembers half? value fuel (done ++ [(key, v)]) (skipGaps t) := by
  obtain ⟨gaps, hcolon, hgaps⟩ := hcolon
  have hput : Members.put key v done = done ++ [(key, v)] := Members.put_of_not_mem hkey
  have hlast := hv.reads ('\x7d' :: t) (endsNumeral_cons (by decide))
  have hnext := hv.reads (',' :: t) (endsNumeral_cons (by decide))
  constructor
  · rw [List.append_assoc, List.append_assoc, writeText_append, hcolon, readMembers,
      readText_written]
    simp only [List.cons_append, skipGaps_cons (c := ':') (by decide), skipGaps_append hgaps,
      (hv.begins.append _).skipGaps_eq, hlast, hput, skipGaps_cons (c := '\x7d') (by decide)]
  · rw [List.append_assoc, List.append_assoc, writeText_append, hcolon, readMembers,
      readText_written]
    simp only [List.cons_append, skipGaps_cons (c := ':') (by decide), skipGaps_append hgaps,
      (hv.begins.append _).skipGaps_eq, hnext, hput, skipGaps_cons (c := ',') (by decide)]

/-- Members that were written are read up to the closing brace; each goes after those before. -/
theorem readMembers_written (half? : Nat → Option Char) (hlayout : layout.IsReadable)
    {members : Members} (hvalues : ∀ m ∈ members, ReadsBack layout value m.2)
    (hne : members ≠ []) {fuel : Nat} (hfuel : members.length ≤ fuel) (done : Members)
    (hkeys : ((done ++ members).map (·.1)).Nodup) (rest : List Char) :
    readMembers half? value fuel done (writeMembers layout members ++ '\x7d' :: rest) =
      .ok (.obj (done ++ members), rest) := by
  obtain ⟨gaps, hseparator, hgaps⟩ := hlayout.comma
  induction members generalizing fuel done with
  | nil => exact absurd rfl hne
  | cons m members ih =>
    obtain ⟨key, v⟩ := m
    rw [List.forall_mem_cons] at hvalues
    rw [List.length_cons] at hfuel
    obtain ⟨fuel, rfl⟩ : ∃ n, fuel = n + 1 := ⟨fuel - 1, by omega⟩
    have hkey : key ∉ done.map (·.1) := by
      intro hmem
      rw [List.map_append, List.nodup_append] at hkeys
      exact hkeys.2.2 key hmem key List.mem_cons_self rfl
    have hmember := readMembers_member half? hlayout.colon hvalues.1 hkey fuel
    cases members with
    | nil => exact (hmember rest).1
    | cons next members =>
      have hbegins : BeginsItem (writeMembers layout (next :: members) ++ '\x7d' :: rest) :=
        (beginsItem_writeMembers next members).append _
      have hmore := ih hvalues.2 (List.cons_ne_nil _ _) (Nat.le_of_succ_le_succ hfuel)
        (done ++ [(key, v)]) (by simpa using hkeys)
      rw [writeMembers_cons_cons, List.append_assoc, List.append_assoc, hseparator,
        List.cons_append, (hmember _).2, skipGaps_append hgaps, hbegins.skipGaps_eq, hmore]
      simp

theorem length_le_writeItems {items : List Json}
    (h : ∀ v ∈ items, BeginsItem (writeChars layout v)) :
    items.length ≤ (writeItems layout items).length := by
  induction items with
  | nil => exact Nat.zero_le _
  | cons v items ih =>
    rw [List.forall_mem_cons] at h
    obtain ⟨c, t, hv, -⟩ := h.1
    cases items with
    | nil => simp [writeItems, hv]
    | cons w items =>
      have hmore := ih h.2
      simp only [writeItems_cons_cons, hv, List.length_append, List.length_cons] at hmore ⊢
      omega

theorem length_le_writeMembers (layout : Layout) (members : Members) :
    members.length ≤ (writeMembers layout members).length := by
  induction members with
  | nil => exact Nat.zero_le _
  | cons m members ih =>
    obtain ⟨key, v⟩ := m
    cases members with
    | nil => simp [writeMembers, writeText]
    | cons next members =>
      simp only [writeMembers_cons_cons, writeText, List.length_append, List.length_cons] at ih ⊢
      omega

theorem readValue_array (h : BeginsItem s) (depth : Nat) :
    readValue half? (depth + 1) ('[' :: s) =
      readItems (readValue half? depth) (s.length + 1) [] s := by
  rw [readValue, h.skipGaps_eq]
  obtain ⟨c, t, rfl, -, hbracket⟩ := h
  split
  · next heq => exact absurd (List.cons.inj heq).1 hbracket
  · rfl

theorem readValue_object (depth : Nat) : readValue half? (depth + 1) ('\x7b' :: '"' :: s) =
    readMembers half? (readValue half? depth) (s.length + 2) [] ('"' :: s) := by
  rfl

theorem beginsItem_toString (i : Int) : BeginsItem (toString i).toList := by
  rw [toList_toString]
  by_cases hi : i < 0
  · rw [if_pos hi]
    exact ⟨'-', _, rfl, by decide, by decide⟩
  · obtain ⟨d, ds, hds, hd⟩ := toDigits_eq_cons i.natAbs
    have hgap : isGap d = false := by
      simp (disch := decide) [isGap, ne_of_isDigit hd]
    rw [if_neg hi, List.nil_append, hds]
    exact ⟨d, ds, rfl, hgap, ne_of_isDigit hd (by decide)⟩

/-- What is written of a document is read back as the document, whatever follows it. -/
theorem readsBack_of_storable (hlayout : layout.IsReadable) {depth : Nat} {v : Json}
    (h : Storable depth v) : ReadsBack layout (readValue half? depth) v := by
  induction h with
  | null depth =>
    refine ⟨⟨_, _, rfl, by decide, by decide⟩, fun rest _ => ?_⟩
    exact readValue_scalar (by decide) (by decide) depth
  | bool depth b =>
    cases b with
    | false =>
      refine ⟨⟨_, _, rfl, by decide, by decide⟩, fun rest _ => ?_⟩
      exact readValue_scalar (by decide) (by decide) depth
    | true =>
      refine ⟨⟨_, _, rfl, by decide, by decide⟩, fun rest _ => ?_⟩
      exact readValue_scalar (by decide) (by decide) depth
  | int depth hdigits =>
    exact ⟨beginsItem_toString _, fun rest hrest => readValue_int hdigits hrest depth⟩
  | str depth s =>
    refine ⟨⟨_, _, rfl, by decide, by decide⟩, fun rest _ => ?_⟩
    rw [writeChars, writeText_append, readValue_scalar (by decide) (by decide), readScalar,
      readText_written]
    rfl
  | @arr depth items hitems ih =>
    refine ⟨⟨_, _, rfl, by decide, by decide⟩, fun rest hrest => ?_⟩
    cases items with
    | nil => rfl
    | cons v items =>
      have hbegins := beginsItem_writeItems (ih v List.mem_cons_self).begins items
      have hlength := length_le_writeItems fun v hv => (ih v hv).begins
      rw [writeChars, List.append_assoc, List.cons_append, List.singleton_append,
        readValue_array (hbegins.append _), readItems_written hlayout ih (List.cons_ne_nil _ _)]
      · rfl
      · rw [List.length_append]
        omega
  | @obj depth members hkeys hvalues ih =>
    refine ⟨⟨_, _, rfl, by decide, by decide⟩, fun rest hrest => ?_⟩
    cases members with
    | nil => rfl
    | cons m members =>
      obtain ⟨t, ht⟩ := exists_writeMembers layout m members
      have hfuel : (m :: members).length ≤ (t ++ '\x7d' :: rest).length + 2 := by
        have hlength := length_le_writeMembers layout (m :: members)
        rw [ht] at hlength
        simp only [List.length_append, List.length_cons] at hlength ⊢
        omega
      have hread := readMembers_written half? hlayout ih (List.cons_ne_nil _ _) hfuel [] hkeys rest
      rw [ht, List.cons_append] at hread
      rw [writeChars, List.append_assoc, List.cons_append, List.singleton_append, ht,
        List.cons_append, readValue_object, hread, List.nil_append]

/-- A document that was written is read back as what it was. -/
theorem read_write (hlayout : layout.IsReadable) {r : Reader} {v : Json}
    (h : Storable r.nesting v) : Json.read r (Json.write layout v) = .ok v := by
  have hback : ReadsBack layout (readValue r.half? r.nesting) v :=
    readsBack_of_storable hlayout h
  have hread := hback.reads [] (by simp [EndsNumeral])
  rw [List.append_nil] at hread
  rw [Json.read, Json.write, String.toList_ofList, readChars, hback.begins.skipGaps_eq, hread]
  rfl

end

theorem spaced_isReadable (ascii : Bool) : Layout.IsReadable { spaced with ascii } where
  comma := ⟨[' '], by simp [spaced], List.forall_mem_singleton.mpr rfl⟩
  colon := ⟨[' '], by simp [spaced], List.forall_mem_singleton.mpr rfl⟩

/-- A layout that writes printable ASCII only. -/
structure Layout.IsPrintable (layout : Layout) : Prop where
  ascii : layout.ascii = true
  comma : ∀ c ∈ layout.comma.toList, IsVisible c
  colon : ∀ c ∈ layout.colon.toList, IsVisible c

/-- Of a given text it can be decided whether it is printable. -/
theorem forall_isVisible {s : List Char} (h : s.all (fun c => decide (IsVisible c)) = true) :
    ∀ c ∈ s, IsVisible c := by
  simpa using h

theorem spaced_isPrintable : spaced.IsPrintable where
  ascii := rfl
  comma := forall_isVisible (by decide)
  colon := forall_isVisible (by decide)

section

variable {layout : Layout}

theorem isVisible_of_isDigit {c : Char} (hc : Decimal.isDigit c = true) : IsVisible c := by
  simp only [Decimal.isDigit, Bool.and_eq_true, decide_eq_true_eq, Char.le_def,
    UInt32.le_iff_toNat_le] at hc
  exact ⟨Nat.le_trans (by decide) hc.1, Nat.lt_of_le_of_lt hc.2 (by decide)⟩

theorem isVisible_writeItems (hlayout : layout.IsPrintable) {items : List Json}
    (h : ∀ v ∈ items, ∀ c ∈ writeChars layout v, IsVisible c) :
    ∀ c ∈ writeItems layout items, IsVisible c := by
  induction items with
  | nil => exact List.forall_mem_nil _
  | cons v items ih =>
    rw [List.forall_mem_cons] at h
    cases items with
    | nil => exact h.1
    | cons w items =>
      rw [writeItems_cons_cons, List.forall_mem_append, List.forall_mem_append]
      exact ⟨⟨h.1, hlayout.comma⟩, ih h.2⟩

theorem isVisible_writeMembers (hlayout : layout.IsPrintable) {members : Members}
    (h : ∀ m ∈ members, ∀ c ∈ writeChars layout m.2, IsVisible c) :
    ∀ c ∈ writeMembers layout members, IsVisible c := by
  induction members with
  | nil => exact List.forall_mem_nil _
  | cons m members ih =>
    obtain ⟨key, v⟩ := m
    rw [List.forall_mem_cons] at h
    have hkey : ∀ c ∈ writeText layout.ascii key, IsVisible c := by
      rw [hlayout.ascii]
      exact fun c hc => isVisible_writeText hc
    cases members with
    | nil =>
      rw [writeMembers, List.forall_mem_append, List.forall_mem_append]
      exact ⟨⟨hkey, hlayout.colon⟩, h.1⟩
    | cons next members =>
      simp only [writeMembers_cons_cons, List.forall_mem_append]
      exact ⟨⟨⟨⟨hkey, hlayout.colon⟩, h.1⟩, hlayout.comma⟩, ih h.2⟩

/-- A document is written in printable ASCII, whatever its texts are. -/
theorem isVisible_writeChars (hlayout : layout.IsPrintable) {depth : Nat} {v : Json}
    (h : Storable depth v) : ∀ c ∈ writeChars layout v, IsVisible c := by
  induction h with
  | null depth =>
    exact forall_isVisible (s := "null".toList) (by decide)
  | bool depth b =>
    cases b with
    | false => exact forall_isVisible (s := "false".toList) (by decide)
    | true => exact forall_isVisible (s := "true".toList) (by decide)
  | @int depth i hdigits =>
    have hsign : ∀ c ∈ if i < 0 then ['-'] else [], IsVisible c := by
      split
      · exact forall_isVisible (by decide)
      · exact List.forall_mem_nil _
    rw [writeChars, toList_toString, List.forall_mem_append]
    exact ⟨hsign, fun c hc => isVisible_of_isDigit (isDigit_of_mem_toDigits hc)⟩
  | str depth s =>
    rw [writeChars, hlayout.ascii]
    exact fun c hc => isVisible_writeText hc
  | arr hitems ih =>
    rw [writeChars, List.forall_mem_append, List.forall_mem_cons, List.forall_mem_singleton]
    exact ⟨⟨by decide, isVisible_writeItems hlayout ih⟩, by decide⟩
  | obj hkeys hvalues ih =>
    rw [writeChars, List.forall_mem_append, List.forall_mem_cons, List.forall_mem_singleton]
    exact ⟨⟨by decide, isVisible_writeMembers hlayout ih⟩, by decide⟩

end

end TechCatalog.Json
