import Mathlib.Algebra.Ring.Int.Defs
import Mathlib.Data.List.Induction
import Mathlib.Data.List.Nodup
import Mathlib.Data.List.Perm.Basic
import TechCatalog.Profile.Technology
import TechCatalog.Proofs.Lists

/-!
# Counting words

`Tallies words counts` says that a list of counts has every word of a list once, with the number of
its occurrences. Counting one word more keeps this, so counting all words leads to it. Counts that
tally the same words in whatever order differ in their order only.
-/

namespace TechCatalog.Profile

/-- The counts give every word once, with the number of its occurrences. -/
structure Tallies (words : List String) (counts : List (String × Int)) : Prop where
  /-- No word is counted twice. -/
  distinct : (counts.map (·.1)).Nodup
  /-- The words that are counted are those that occur. -/
  occurring : ∀ w, w ∈ counts.map (·.1) ↔ w ∈ words
  /-- A count is the number of occurrences. -/
  counts : ∀ c ∈ counts, c.2 = words.count c.1

theorem keys_countOne (word : String) (counts : List (String × Int)) :
    (countOne word counts).map (·.1) =
      if word ∈ counts.map (·.1) then counts.map (·.1) else counts.map (·.1) ++ [word] := by
  induction counts with
  | nil => rfl
  | cons c rest ih =>
    obtain ⟨w, n⟩ := c
    by_cases hw : w = word
    · simp [countOne, hw]
    · have hne : ¬ word = w := fun h => hw h.symm
      simp only [countOne, if_neg hw, List.map_cons, ih, List.mem_cons, hne, false_or]
      split <;> rfl

/-- Counting a word changes the count of this word only. -/
theorem mem_countOne {word : String} {counts : List (String × Int)}
    (h : (counts.map (·.1)).Nodup) {c : String × Int} (hc : c ∈ countOne word counts) :
    (c.1 ≠ word ∧ c ∈ counts) ∨
      (c.1 = word ∧ ((word, c.2 - 1) ∈ counts ∨ (word ∉ counts.map (·.1) ∧ c.2 = 1))) := by
  induction counts with
  | nil =>
    rw [countOne, List.mem_singleton] at hc
    subst hc
    exact .inr ⟨rfl, .inr ⟨List.not_mem_nil, rfl⟩⟩
  | cons k rest ih =>
    obtain ⟨w, n⟩ := k
    rw [List.map_cons, List.nodup_cons] at h
    -- Only the first entry of the word is counted up; distinct keys leave no second one.
    by_cases hw : w = word
    · subst hw
      simp only [countOne, if_true, List.mem_cons] at hc
      rcases hc with rfl | hc
      · refine .inr ⟨rfl, .inl ?_⟩
        simp
      · have hne : c.1 ≠ w := fun heq => h.1 (heq ▸ List.mem_map_of_mem (f := (·.1)) hc)
        exact .inl ⟨hne, List.mem_cons_of_mem _ hc⟩
    · simp only [countOne, if_neg hw, List.mem_cons] at hc
      rcases hc with rfl | hc
      · exact .inl ⟨hw, List.mem_cons_self⟩
      · rcases ih h.2 hc with ⟨hne, hmem⟩ | ⟨heq, hmem | ⟨hnew, hone⟩⟩
        · exact .inl ⟨hne, List.mem_cons_of_mem _ hmem⟩
        · exact .inr ⟨heq, .inl (List.mem_cons_of_mem _ hmem)⟩
        · refine .inr ⟨heq, .inr ⟨?_, hone⟩⟩
          rw [List.map_cons, List.mem_cons]
          rintro (hword | hword)
          · exact hw hword.symm
          · exact hnew hword

theorem Tallies.nil : Tallies [] [] where
  distinct := List.nodup_nil
  occurring _ := Iff.rfl
  counts _ hc := nomatch hc

theorem Tallies.countOne {words : List String} {counts : List (String × Int)}
    (h : Tallies words counts) (word : String) :
    Tallies (words ++ [word]) (countOne word counts) where
  distinct := by
    rw [keys_countOne]
    split
    · exact h.distinct
    · rename_i hnew
      rw [← List.concat_eq_append]
      exact h.distinct.concat hnew
  occurring w := by
    rw [keys_countOne, List.mem_append, List.mem_singleton, ← h.occurring]
    split
    · rename_i hold
      constructor
      · exact .inl
      · rintro (hw | rfl)
        · exact hw
        · exact hold
    · rw [List.mem_append, List.mem_singleton]
  counts c hc := by
    rw [List.count_append, List.count_singleton]
    rcases mem_countOne h.distinct hc with ⟨hne, hmem⟩ | ⟨heq, hmem | ⟨hnew, hone⟩⟩
    · rw [h.counts c hmem]
      simp [Ne.symm hne]
    · have hcount : c.2 - 1 = words.count word := h.counts _ hmem
      rw [heq, if_pos (beq_self_eq_true word)]
      omega
    · rw [h.occurring] at hnew
      rw [hone, heq, List.count_eq_zero_of_not_mem hnew]
      simp

/-- Counting tallies all words. -/
theorem tallies_countEach (words : List String) : Tallies words (countEach words) := by
  induction words using List.reverseRecOn with
  | nil => exact .nil
  | append_singleton words word ih =>
    rw [countEach, List.foldl_append]
    exact ih.countOne word

theorem sum_countOne (word : String) (counts : List (String × Int)) :
    ((countOne word counts).map (·.2)).sum = (counts.map (·.2)).sum + 1 := by
  induction counts with
  | nil => rfl
  | cons c rest ih =>
    obtain ⟨w, n⟩ := c
    by_cases hw : w = word
    · simp only [countOne, if_pos hw, List.map_cons, List.sum_cons]
      omega
    · simp only [countOne, if_neg hw, List.map_cons, List.sum_cons, ih]
      omega

/-- The counts of words make up the number of words. -/
theorem sum_countEach (words : List String) :
    ((countEach words).map (·.2)).sum = words.length := by
  induction words using List.reverseRecOn with
  | nil => rfl
  | append_singleton words word ih =>
    have hstep : countEach (words ++ [word]) = countOne word (countEach words) := by
      rw [countEach, List.foldl_append]
      rfl
    rw [hstep, sum_countOne, ih, List.length_append]
    rfl

theorem Tallies.eq_map {words : List String} {counts : List (String × Int)}
    (h : Tallies words counts) :
    counts = (counts.map (·.1)).map fun w => (w, (words.count w : Int)) := by
  rw [List.map_map]
  refine ((List.map_congr_left fun c hc => ?_).trans (List.map_id counts)).symm
  exact Prod.ext rfl (h.counts c hc).symm

/-- Looking up a word finds the number of its occurrences, and nothing if there are none. -/
theorem Tallies.lookup_eq {words : List String} {counts : List (String × Int)}
    (h : Tallies words counts) (w : String) :
    counts.lookup w = if words.count w = 0 then none else some (words.count w : Int) := by
  by_cases hw : w ∈ words
  · obtain ⟨c, hc, rfl⟩ := List.mem_map.mp ((h.occurring w).mpr hw)
    have hpos := List.count_pos_iff.mpr hw
    rw [lookup_of_mem h.distinct hc, h.counts c hc, if_neg (by omega)]
  · have hnone : counts.lookup w = none := by
      rw [List.lookup_eq_none_iff]
      intro c hc
      have hne : w ≠ c.1 := fun heq => hw ((h.occurring w).mp (heq ▸ List.mem_map_of_mem hc))
      exact bne_iff_ne.mpr hne
    rw [hnone, if_pos (List.count_eq_zero_of_not_mem hw)]

/-- The order of the words does not matter for what is counted. -/
theorem Tallies.perm {words words' : List String} {counts counts' : List (String × Int)}
    (h : Tallies words counts) (h' : Tallies words' counts') (hwords : words.Perm words') :
    counts.Perm counts' := by
  have hkeys : (counts.map (·.1)).Perm (counts'.map (·.1)) := by
    refine (List.perm_ext_iff_of_nodup h.distinct h'.distinct).mpr fun w => ?_
    rw [h.occurring, h'.occurring, hwords.mem_iff]
  rw [h.eq_map, h'.eq_map]
  have hcount : (fun w => (w, (words.count w : Int))) = fun w => (w, (words'.count w : Int)) :=
    funext fun w => by rw [hwords.count_eq]
  rw [hcount]
  exact hkeys.map _

end TechCatalog.Profile
