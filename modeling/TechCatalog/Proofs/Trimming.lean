import TechCatalog.Proofs.Patterns
import TechCatalog.Text.Blank

/-!
# Texts without the blanks around them

To strip a text is to take off the blanks at both its ends, as many as there are. What is left
begins and ends with a character that is not blank, and by this it is determined: there is only one
way to cut a text into blanks, such a rest, and blanks.
-/

namespace TechCatalog.Text

theorem mem_of_mem_trim {p : Char → Bool} {s : List Char} {c : Char} (h : c ∈ trim p s) :
    c ∈ s := by
  rw [trim, List.mem_reverse] at h
  have hfront := (List.dropWhile_sublist p).mem h
  rw [List.mem_reverse] at hfront
  exact (List.dropWhile_sublist p).mem hfront

theorem NulFree.strip {s : String} (h : NulFree s) : NulFree (strip s) := by
  rw [NulFree, Text.strip, String.toList_ofList]
  exact fun hmem => h (mem_of_mem_trim hmem)

/-- Nothing is left of a blank text. -/
theorem strip_of_allBlank {s : String} (h : allBlank s = true) : strip s = "" := by
  have hnone : s.toList.dropWhile isBlank = [] :=
    List.dropWhile_eq_nil_iff.mpr (List.all_eq_true.mp h)
  rw [strip, trim, hnone]
  rfl

/-- A text is cut into blanks, a rest that neither begins nor ends with a blank, and blanks. -/
structure Stripped (s rest : String) : Prop where
  around : ∃ before after, s.toList = before ++ rest.toList ++ after ∧
    (∀ c ∈ before, isBlank c = true) ∧ ∀ c ∈ after, isBlank c = true
  first : ∀ c ∈ rest.toList.head?, isBlank c = false
  last : ∀ c ∈ rest.toList.getLast?, isBlank c = false

section

variable {p : Char → Bool}

theorem dropWhile_eq_self {s : List Char} (h : ∀ c ∈ s.head?, p c = false) : s.dropWhile p = s := by
  cases s with
  | nil => rfl
  | cons c s => exact List.dropWhile_cons_of_neg (Bool.eq_false_iff.mp (h c rfl))

theorem head?_dropWhile {s : List Char} : ∀ c ∈ (s.dropWhile p).head?, p c = false := by
  intro c hc
  have h := List.head?_dropWhile_not p s
  rw [Option.mem_def.mp hc] at h
  exact h

/-- What stands between characters of a class is all that trimming leaves, if it neither begins nor
ends with one of them. -/
theorem trim_around {before rest after : List Char} (hbefore : ∀ c ∈ before, p c = true)
    (hafter : ∀ c ∈ after, p c = true) (hfirst : ∀ c ∈ rest.head?, p c = false)
    (hlast : ∀ c ∈ rest.getLast?, p c = false) : trim p (before ++ rest ++ after) = rest := by
  have hreverse : ∀ c ∈ after.reverse, p c = true := by
    intro c hc
    exact hafter c (List.mem_reverse.mp hc)
  have hback : (rest ++ after).reverse.dropWhile p = rest.reverse := by
    rw [List.reverse_append, List.dropWhile_append_of_pos hreverse]
    refine dropWhile_eq_self fun c hc => hlast c ?_
    rw [List.head?_reverse] at hc
    exact hc
  rw [trim, List.append_assoc, List.dropWhile_append_of_pos hbefore]
  cases rest with
  | nil =>
    rw [List.nil_append, List.dropWhile_eq_nil_iff.mpr hafter]
    rfl
  | cons c rest =>
    have hfront : (c :: rest ++ after).dropWhile p = c :: rest ++ after :=
      dropWhile_eq_self hfirst
    rw [hfront, hback, List.reverse_reverse]

/-- The characters that trimming takes off are of the class. -/
theorem eq_around_trim (p : Char → Bool) (s : List Char) : ∃ before after,
    s = before ++ trim p s ++ after ∧ (∀ c ∈ before, p c = true) ∧ ∀ c ∈ after, p c = true := by
  have hback : (s.dropWhile p).reverse =
      (s.dropWhile p).reverse.takeWhile p ++ (s.dropWhile p).reverse.dropWhile p :=
    List.takeWhile_append_dropWhile.symm
  refine ⟨s.takeWhile p, ((s.dropWhile p).reverse.takeWhile p).reverse, ?_, ?_, ?_⟩
  · rw [trim, List.append_assoc, ← List.reverse_append, ← hback, List.reverse_reverse,
      List.takeWhile_append_dropWhile]
  · intro c hc
    exact List.mem_takeWhile_imp hc
  · intro c hc
    exact List.mem_takeWhile_imp (List.mem_reverse.mp hc)

theorem head?_trim {s : List Char} : ∀ c ∈ (trim p s).head?, p c = false := by
  intro c hc
  rw [trim, List.head?_reverse] at hc
  -- The last character of a rest that is not empty is the last of the whole, which was the first.
  obtain ⟨taken, htaken⟩ := List.dropWhile_suffix p (l := (s.dropWhile p).reverse)
  refine head?_dropWhile (s := s) c ?_
  rw [← List.getLast?_reverse, ← htaken, List.getLast?_append, Option.mem_def.mp hc]
  rfl

theorem getLast?_trim {s : List Char} : ∀ c ∈ (trim p s).getLast?, p c = false := by
  intro c hc
  rw [trim, List.getLast?_reverse] at hc
  exact head?_dropWhile c hc

end

/-- There is one way to strip a text. -/
theorem stripped_iff {s rest : String} : Stripped s rest ↔ strip s = rest := by
  constructor
  · rintro ⟨⟨before, after, hs, hbefore, hafter⟩, hfirst, hlast⟩
    rw [strip, hs, trim_around hbefore hafter hfirst hlast, String.ofList_toList]
  · rintro rfl
    have hrest : (strip s).toList = trim isBlank s.toList := String.toList_ofList
    refine ⟨?_, ?_, ?_⟩
    · rw [hrest]
      exact eq_around_trim isBlank s.toList
    · rw [hrest]
      exact head?_trim
    · rw [hrest]
      exact getLast?_trim

theorem strip_eq_empty_iff {s : String} : strip s = "" ↔ allBlank s = true := by
  refine ⟨fun h => ?_, strip_of_allBlank⟩
  obtain ⟨⟨before, after, hs, hbefore, hafter⟩, -, -⟩ := stripped_iff.mpr h
  rw [allBlank, hs, List.all_eq_true]
  intro c hc
  rcases List.mem_append.mp hc with hfront | hback
  · exact hbefore c ((List.mem_append.mp hfront).resolve_right List.not_mem_nil)
  · exact hafter c hback

end TechCatalog.Text
