import Mathlib.Data.String.Basic
import TechCatalog.Options.Ranking
import TechCatalog.Proofs.Lists

/-!
# How lists of values are ranked

A ranked list has every value that is offered once. A value precedes another when it counts for
more, or when both count for the same and it comes first in the alphabet. What a value counts for is
the sum over the rows that hold it.
-/

namespace TechCatalog.Options

open Store Query

/-- A value counts for more than another, or for the same and it comes first in the alphabet. -/
def Precedes (weight : String → Nat) (v w : String) : Prop :=
  weight w < weight v ∨ (weight v = weight w ∧ v < w)

section

variable {offers : List Offer}

theorem comesBefore_iff (v w : String) : comesBefore offers v w = true ↔
    weightOf offers w < weightOf offers v ∨ (weightOf offers v = weightOf offers w ∧ v ≤ w) := by
  rw [comesBefore]
  split
  · rename_i hlt
    exact iff_of_true rfl (.inl (compare_lt_iff_lt.mp hlt))
  · rename_i hgt
    have hweights := compare_gt_iff_gt.mp hgt
    refine iff_of_false Bool.false_ne_true ?_
    rintro (hless | ⟨hsame, -⟩) <;> omega
  · rename_i heq
    have hsame := (compare_eq_iff_eq.mp heq).symm
    rw [bne_iff_ne, ← compare_le_iff_le]
    constructor
    · exact fun hle => .inr ⟨hsame, hle⟩
    · rintro (hless | ⟨-, hle⟩)
      · omega
      · exact hle

theorem mem_rank {v : String} : v ∈ rank offers ↔ ∃ o ∈ offers, o.value = v := by
  rw [rank, List.mem_mergeSort, List.mem_eraseDups, List.mem_map]

theorem rank_nodup : (rank offers).Nodup :=
  (List.mergeSort_perm _ _).nodup_iff.mpr (nodup_eraseDups _)

/-- In a ranked list every value precedes all that follow it. -/
theorem rank_sorted : (rank offers).Pairwise (Precedes (weightOf offers)) := by
  have htrans : ∀ u v w, comesBefore offers u v = true → comesBefore offers v w = true →
      comesBefore offers u w = true := by
    intro u v w huv hvw
    rw [comesBefore_iff] at *
    rcases huv with huv | ⟨huv, hu⟩ <;> rcases hvw with hvw | ⟨hvw, hv⟩
    · exact .inl (by omega)
    · exact .inl (by omega)
    · exact .inl (by omega)
    · exact .inr ⟨huv.trans hvw, hu.trans hv⟩
  have htotal : ∀ v w, (comesBefore offers v w || comesBefore offers w v) = true := by
    intro v w
    rw [Bool.or_eq_true, comesBefore_iff, comesBefore_iff]
    rcases Nat.lt_trichotomy (weightOf offers v) (weightOf offers w) with hlt | heq | hgt
    · exact .inr (.inl hlt)
    · rcases le_total v w with hle | hle
      · exact .inl (.inr ⟨heq, hle⟩)
      · exact .inr (.inr ⟨heq.symm, hle⟩)
    · exact .inl (.inl hgt)
  have hsorted := List.pairwise_mergeSort htrans htotal (offers.map (·.value)).eraseDups
  -- No value stands in the list twice, so a tie in weight is decided by the alphabet.
  refine (hsorted.and rank_nodup).imp ?_
  rintro v w ⟨hbefore, hne⟩
  rcases (comesBefore_iff v w).mp hbefore with hless | ⟨hsame, hle⟩
  · exact .inl hless
  · exact .inr ⟨hsame, lt_of_le_of_ne hle hne⟩

end

section

variable {α : Type} (xs : List α) (cell : α → Option Value) (weight : α → Nat)

theorem offer?_eq_some_iff {c : Option Value} {n : Nat} {o : Offer} :
    offer? c n = some o ↔ c = some (.text o.value) ∧ o.value ≠ "" ∧ o.weight = n := by
  rw [offer?.eq_def]
  split
  · refine iff_of_false (fun h => nomatch h) ?_
    rintro ⟨hcell, hne, -⟩
    cases o
    cases hcell
    exact hne rfl
  · rename_i s hne
    constructor
    · rintro ⟨⟩
      exact ⟨rfl, hne, rfl⟩
    · rintro ⟨hcell, -, rfl⟩
      cases hcell
      rfl
  · rename_i htext
    refine iff_of_false (fun h => nomatch h) ?_
    rintro ⟨rfl, -⟩
    exact htext _ rfl

/-- The values that are offered are the texts of the rows that are not empty. -/
theorem exists_offer_iff {v : String} :
    (∃ o ∈ xs.filterMap fun x => offer? (cell x) (weight x), o.value = v) ↔
      v ≠ "" ∧ ∃ x ∈ xs, cell x = some (.text v) := by
  simp only [List.mem_filterMap, offer?_eq_some_iff]
  constructor
  · rintro ⟨o, ⟨x, hx, hcell, hne, -⟩, rfl⟩
    exact ⟨hne, x, hx, hcell⟩
  · rintro ⟨hne, x, hx, hcell⟩
    exact ⟨⟨v, weight x⟩, ⟨x, hx, hcell, hne, rfl⟩, rfl⟩

theorem weightOf_eq_foldl (offers : List Offer) (v : String) :
    weightOf offers v =
      ((offers.filter fun o => o.value == v).map (·.weight)).foldl (· + ·) 0 := by
  rw [weightOf, List.foldl_map]

/-- What a value counts for is the sum over the rows that hold it. -/
theorem weightOf_offers {v : String} (hv : v ≠ "") :
    weightOf (xs.filterMap fun x => offer? (cell x) (weight x)) v =
      ((xs.filter fun x => cell x == some (.text v)).map weight).foldl (· + ·) 0 := by
  rw [weightOf_eq_foldl, List.filter_filterMap, List.map_filterMap, ← List.filterMap_eq_map,
    List.filterMap_filter]
  refine congrArg (List.foldl (· + ·) 0) (List.filterMap_congr fun x _ => ?_)
  by_cases hcell : cell x = some (.text v)
  · have hoffer : offer? (cell x) (weight x) = some ⟨v, weight x⟩ :=
      offer?_eq_some_iff.mpr ⟨hcell, hv, rfl⟩
    rw [hoffer, if_pos (beq_iff_eq.mpr hcell)]
    simp
  · rw [if_neg (fun h => hcell (beq_iff_eq.mp h))]
    cases hoffer : offer? (cell x) (weight x) with
    | none => rfl
    | some o =>
      have hvalue : o.value ≠ v := by
        rintro rfl
        exact hcell (offer?_eq_some_iff.mp hoffer).1
      simp [hvalue]

end

end TechCatalog.Options
