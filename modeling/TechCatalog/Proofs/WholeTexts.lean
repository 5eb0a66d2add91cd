import TechCatalog.Json.Reader

/-!
# Texts of whole characters

An escape may write half a character, and where it stands alone no text can hold it, so what a
reader makes of it is its own affair. Such a half is the only thing that readers may disagree on: a
strict reader, which stops there, comes to the same result as any other that goes as deep, or has
met one.
-/

namespace TechCatalog.Json

/-- The reader that goes as deep, but stops at half a character that stands alone. -/
def Reader.strict (r : Reader) : Reader :=
  { r with half? := fun _ => none }

/-- A text without half a character alone, as far as it is read. -/
def IsWhole (r : Reader) (s : String) : Prop :=
  Json.read r.strict s ≠ .error .halfCharacter

/-- One reading stops at half a character, or both come to the same. -/
def Agrees {α : Type} (strict other : Except ReadError α) : Prop :=
  strict = .error .halfCharacter ∨ strict = other

namespace Agrees

variable {α β : Type}

theorem refl (x : Except ReadError α) : Agrees x x := .inr rfl

theorem map {x y : Except ReadError α} (h : Agrees x y) (f : α → β) :
    Agrees (x.map f) (y.map f) := by
  rcases h with rfl | rfl
  · exact .inl rfl
  · exact refl _

end Agrees

section

variable (half? : Nat → Option Char)

theorem unitChar_strict (n : Nat) :
    unitChar? (fun _ => none) n = none ∨ unitChar? (fun _ => none) n = unitChar? half? n := by
  by_cases hhalf : (0xD800 ≤ n && n < 0xE000) = true
  · exact .inl (if_pos hhalf)
  · rw [unitChar?, unitChar?, if_neg hhalf, if_neg hhalf]
    exact .inr rfl

theorem joinUnits_strict (done : List Char) (units : List Nat) :
    joinUnits (fun _ => none) done units = none ∨
      joinUnits (fun _ => none) done units = joinUnits half? done units := by
  -- Along the cases of the strict reading, since that is the one that may stop.
  induction done, units using joinUnits.induct (fun _ => none) with
  | case1 done => exact .inr rfl
  | case2 done n =>
    rw [joinUnits, joinUnits]
    rcases unitChar_strict half? n with hnone | hsame
    · rw [hnone]
      exact .inl rfl
    · rw [hsame]
      exact .inr rfl
  | case3 done n m rest hpair ih =>
    rw [joinUnits, joinUnits, if_pos hpair, if_pos hpair]
    exact ih
  | case4 done n m rest hpair c hc ih =>
    rcases unitChar_strict half? n with hnone | hsame
    · rw [hc] at hnone
      cases hnone
    · rw [joinUnits, joinUnits, if_neg hpair, if_neg hpair, ← hsame, hc]
      exact ih
  | case5 done n m rest hpair hc =>
    rw [joinUnits, if_neg hpair, hc]
    exact .inl rfl

theorem readText_strict (start : Nat) (s : List Char) :
    Agrees (readText (fun _ => none) start s) (readText half? start s) := by
  rw [readText, readText]
  cases readUnits start [] s with
  | error e => exact .refl _
  | ok r =>
    obtain ⟨units, rest⟩ := r
    dsimp only
    rcases joinUnits_strict half? [] units with hnone | hsame
    · rw [hnone]
      exact .inl rfl
    · rw [hsame]
      exact .refl _

theorem readScalar_strict (s : List Char) :
    Agrees (readScalar (fun _ => none) s) (readScalar half? s) := by
  unfold readScalar
  split
  · exact (readText_strict half? _ _).map _
  all_goals exact .refl _

end

section

variable {strict other : List Char → Scan Json} (hvalue : ∀ s, Agrees (strict s) (other s))
include hvalue

theorem readItems_strict (fuel : Nat) (done : List Json) (s : List Char) :
    Agrees (readItems strict fuel done s) (readItems other fuel done s) := by
  induction fuel generalizing done s with
  | zero => exact .refl _
  | succ fuel ih =>
    rw [readItems, readItems]
    rcases hvalue s with hhalf | hsame
    · rw [hhalf]
      exact .inl rfl
    rw [hsame]
    cases other s with
    | error e => exact .refl _
    | ok r =>
      dsimp only
      split
      · exact .refl _
      · exact ih _ _
      · exact .refl _

theorem readMembers_strict (half? : Nat → Option Char) (fuel : Nat) (done : Members)
    (s : List Char) : Agrees (readMembers (fun _ => none) strict fuel done s)
      (readMembers half? other fuel done s) := by
  induction fuel generalizing done s with
  | zero => exact .refl _
  | succ fuel ih =>
    unfold readMembers
    split
    · rename_i rest
      rcases readText_strict half? (rest.length + 1) rest with hhalf | hsame
      · simp only [List.length_cons, hhalf]
        exact .inl rfl
      simp only [List.length_cons, hsame]
      cases readText half? (rest.length + 1) rest with
      | error e => exact .refl _
      | ok r =>
        obtain ⟨key, rest⟩ := r
        dsimp only
        split
        · rename_i rest _
          rcases hvalue (skipGaps rest) with hhalf | hsame
          · rw [hhalf]
            exact .inl rfl
          rw [hsame]
          cases other (skipGaps rest) with
          | error e => exact .refl _
          | ok r =>
            dsimp only
            split
            · exact .refl _
            · exact ih _ _
            · exact .refl _
        · exact .refl _
    · exact .refl _

end

section

variable (half? : Nat → Option Char)

theorem readValue_strict (depth : Nat) (s : List Char) :
    Agrees (readValue (fun _ => none) depth s) (readValue half? depth s) := by
  induction depth generalizing s with
  | zero =>
    unfold readValue
    split
    · exact .refl _
    · exact .refl _
    · exact readScalar_strict half? _
  | succ depth ih =>
    unfold readValue
    split
    · dsimp only
      split
      · exact .refl _
      · exact readItems_strict ih _ _ _
    · dsimp only
      split
      · exact .refl _
      · exact readMembers_strict ih half? _ _ _
    · exact readScalar_strict half? _

end

/-- A strict reader stops at half a character, or reads what any other reads. -/
theorem read_strict (r : Reader) (s : String) : Agrees (Json.read r.strict s) (Json.read r s) := by
  rw [Json.read, Json.read, readChars, readChars]
  rcases readValue_strict r.half? r.nesting (skipGaps s.toList) with hhalf | hsame
  · have hstrict : readValue r.strict.half? r.strict.nesting (skipGaps s.toList) = _ := hhalf
    rw [hstrict]
    exact .inl rfl
  · have hstrict : readValue r.strict.half? r.strict.nesting (skipGaps s.toList) = _ := hsame
    rw [hstrict]
    exact .refl _

/-- What is put in the place of half a character does not matter to a text without any. -/
theorem read_eq_of_whole {r r' : Reader} {s : String} (h : IsWhole r s)
    (hnesting : r'.nesting = r.nesting) : Json.read r' s = Json.read r s := by
  have hstrict : r'.strict = r.strict := by rw [Reader.strict, Reader.strict, hnesting]
  have hr := (read_strict r s).resolve_left h
  have hr' := (read_strict r' s).resolve_left (hstrict ▸ h)
  rw [← hr, ← hr', hstrict]

end TechCatalog.Json
