import Mathlib.Algebra.BigOperators.Group.List.Basic
import TechCatalog.Profile.Technology
import TechCatalog.Proofs.ExactAddition

/-!
# Sums of amounts

Amounts are added from left to right, and every addition rounds. Where all amounts are whole
multiples of one unit, a power of two, and together fewer than `2 ^ 53` units, so is every sum on
the way, and the result is the exact sum.
-/

namespace TechCatalog.Decimal

/-- The sum of amounts as exact numbers. -/
def exactSum (xs : List Float) : ℚ :=
  (xs.map value).sum

/-- The sum of amounts that the computer gives is finite and suffers no rounding. -/
def AddsExactly (xs : List Float) : Prop :=
  isFinite (Profile.sumAmounts xs) = true ∧ value (Profile.sumAmounts xs) = exactSum xs

theorem exactSum_perm {xs ys : List Float} (h : xs.Perm ys) : exactSum xs = exactSum ys :=
  (h.map value).sum_eq

theorem not_isNaN_of_isFinite {x : Float} (h : isFinite x = true) : isNaN x = false := by
  rw [isFinite, decide_eq_true_eq] at h
  rw [isNaN, decide_eq_false_iff_not]
  omega

theorem exactSum_filterMap {α : Type} (amount : α → Option Float) (xs : List α) :
    exactSum (xs.filterMap amount) =
      exactSum (xs.map fun x => (amount x).getD (Float.ofBits 0)) := by
  induction xs with
  | nil => rfl
  | cons x xs ih =>
    rw [exactSum, exactSum] at ih ⊢
    cases hx : amount x with
    | none =>
      rw [List.filterMap_cons_none hx, List.map_cons, hx, Option.getD_none, List.map_cons,
        List.sum_cons, value_zero, zero_add]
      exact ih
    | some y =>
      rw [List.filterMap_cons_some hx, List.map_cons, List.map_cons, hx, Option.getD_some,
        List.map_cons, List.sum_cons, List.sum_cons, ih]

/-! ### Amounts in units -/

/-- An amount is finite and so many units, each a power of two. -/
structure InUnits (q : Int) (x : Float) (units : Int) : Prop where
  finite : isFinite x = true
  value_eq : value x = units * 2 ^ q

/-- Amounts in units, together fewer than `2 ^ 53`. -/
def FewUnits (q : Int) (xs : List Float) : Prop :=
  ∃ counts, List.Forall₂ (InUnits q) xs counts ∧ (counts.map Int.natAbs).sum < 2 ^ 53

/-- The order of the amounts does not matter. -/
theorem FewUnits.perm {q : Int} {xs ys : List Float} (h : FewUnits q xs) (hperm : xs.Perm ys) :
    FewUnits q ys := by
  obtain ⟨counts, hcounts, hfew⟩ := h
  obtain ⟨counts', hcounts', hperm'⟩ := List.perm_comp_forall₂ hperm.symm hcounts
  refine ⟨counts', hcounts', ?_⟩
  rwa [(hperm'.map Int.natAbs).sum_eq]

theorem inUnits_zero (q : Int) : InUnits q (Float.ofBits 0) 0 where
  finite := by decide
  value_eq := by rw [value_zero, Int.cast_zero, zero_mul]

/-- Amounts that are not known are no units. -/
theorem exists_inUnits_getD {α : Type} {amount : α → Option Float} {q : Int} {xs : List α}
    {counts : List Int} (h : List.Forall₂ (InUnits q) (xs.filterMap amount) counts) :
    ∃ counts', List.Forall₂ (InUnits q) (xs.map fun x => (amount x).getD (Float.ofBits 0)) counts' ∧
      (counts'.map Int.natAbs).sum = (counts.map Int.natAbs).sum := by
  induction xs generalizing counts with
  | nil =>
    cases h
    exact ⟨[], .nil, rfl⟩
  | cons x xs ih =>
    rw [List.map_cons]
    cases hx : amount x with
    | none =>
      rw [List.filterMap_cons_none hx] at h
      obtain ⟨counts', hcounts', hsum⟩ := ih h
      refine ⟨0 :: counts', .cons (inUnits_zero q) hcounts', ?_⟩
      rw [List.map_cons, List.sum_cons, Int.natAbs_zero, Nat.zero_add, hsum]
    | some y =>
      rw [List.filterMap_cons_some hx] at h
      obtain ⟨n, rest, hy, hrest, rfl⟩ := List.forall₂_cons_left_iff.mp h
      obtain ⟨counts', hcounts', hsum⟩ := ih hrest
      refine ⟨n :: counts', .cons hy hcounts', ?_⟩
      rw [List.map_cons, List.sum_cons, List.map_cons, List.sum_cons, hsum]

theorem FewUnits.getD {α : Type} {amount : α → Option Float} {q : Int} {xs : List α}
    (h : FewUnits q (xs.filterMap amount)) :
    FewUnits q (xs.map fun x => (amount x).getD (Float.ofBits 0)) := by
  obtain ⟨counts, hcounts, hfew⟩ := h
  obtain ⟨counts', hcounts', hsum⟩ := exists_inUnits_getD hcounts
  exact ⟨counts', hcounts', by rwa [hsum]⟩

theorem exactSum_of_inUnits {q : Int} {xs : List Float} {counts : List Int}
    (h : List.Forall₂ (InUnits q) xs counts) : exactSum xs = counts.sum * 2 ^ q := by
  induction h with
  | nil => rw [exactSum, List.map_nil, List.sum_nil, List.sum_nil, Int.cast_zero, zero_mul]
  | cons hx _ ih =>
    rw [exactSum] at ih ⊢
    rw [List.map_cons, List.sum_cons, List.sum_cons, ih, hx.value_eq, Int.cast_add, add_mul]

section

variable {q : Int} (hlow : -1074 ≤ q) (hhigh : q ≤ 971)
include hlow hhigh

theorem InUnits.add {x y : Float} {m n : Int} (hx : InUnits q x m) (hy : InUnits q y n)
    (hfew : (m + n).natAbs < 2 ^ 53) : InUnits q (x + y) (m + n) := by
  have hsum : value x + value y = (m + n : Int) * 2 ^ q := by
    rw [hx.value_eq, hy.value_eq, Int.cast_add, add_mul]
  obtain ⟨hfinite, hvalue⟩ := add_exact hx.finite hy.finite hfew hlow hhigh hsum
  exact ⟨hfinite, hvalue.trans hsum⟩

theorem InUnits.foldl {xs : List Float} {counts : List Int}
    (hxs : List.Forall₂ (InUnits q) xs counts) {start : Float} {m : Int}
    (hstart : InUnits q start m) (hfew : m.natAbs + (counts.map Int.natAbs).sum < 2 ^ 53) :
    InUnits q (xs.foldl (· + ·) start) (m + counts.sum) := by
  -- The sum so far stays in units, so it is generalised.
  induction hxs generalizing start m with
  | nil =>
    rw [List.sum_nil, Int.add_zero]
    exact hstart
  | @cons x n xs counts hx _ ih =>
    rw [List.map_cons, List.sum_cons] at hfew
    have hsize := Int.natAbs_add_le m n
    have hnext := hstart.add hlow hhigh hx (by omega)
    rw [List.foldl_cons, List.sum_cons, ← Int.add_assoc]
    exact ih hnext (by omega)

theorem FewUnits.addsExactly {xs : List Float} (h : FewUnits q xs) : AddsExactly xs := by
  obtain ⟨counts, hcounts, hfew⟩ := h
  have hsum := InUnits.foldl hlow hhigh hcounts (inUnits_zero q) (by
    rw [Int.natAbs_zero, Nat.zero_add]
    exact hfew)
  rw [Int.zero_add] at hsum
  exact ⟨hsum.finite, hsum.value_eq.trans (exactSum_of_inUnits hcounts).symm⟩

end

end TechCatalog.Decimal
