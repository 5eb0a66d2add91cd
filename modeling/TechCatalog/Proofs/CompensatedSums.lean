import Mathlib.Algebra.Order.BigOperators.Group.List
import TechCatalog.Proofs.ExactSums
import TechCatalog.Store.Platform

/-!
# Sums with their rounding errors made good

The usual platform finds the rounding error of every addition by two more additions, and adds the
errors up beside the sum. Amounts that are whole multiples of one unit, together fewer than
`2 ^ 53` units, leave no error at any step, so the result is the exact sum, in whichever order the
amounts come. A platform of which this is true is called faithful.
-/

namespace TechCatalog.Decimal

open Float.Model (Format UnpackedFloat)
open Float.Model.UnpackedFloat (Sign decreaseExponent)

/-! ### Subtraction -/

theorem apply_neg (s : Sign) (m : Int) : (-s).apply m = -s.apply m := by
  cases s with
  | positive => rfl
  | negative => exact (Int.neg_neg m).symm

theorem canonical_neg {x : UnpackedFloat} (h : Canonical x) : Canonical x.neg := by
  cases x with
  | notANumber => exact h
  | infinity s => exact h
  | zero s => exact h
  | finite s m e hm => exact h

theorem exactValue_neg (x : UnpackedFloat) : exactValue x.neg = -exactValue x := by
  cases x with
  | notANumber => exact neg_zero.symm
  | infinity s => exact neg_zero.symm
  | zero s => exact neg_zero.symm
  | finite s m e hm =>
    show (((-s).apply m : Int) : ℚ) * 2 ^ e = -(s.apply m * 2 ^ e)
    rw [apply_neg, Int.cast_neg, neg_mul]

theorem unpacked_sub_eq_add_neg (x y : UnpackedFloat) :
    x.sub Format.binary64 y = x.add Format.binary64 y.neg := by
  -- Magnitudes are only looked at where both numbers are finite.
  match x, y with
  | .finite s m e _, .finite s' m' e' _ =>
    let low := min e e'
    show UnpackedFloat.normalize Format.binary64 (s.apply ((decreaseExponent m e low).1 : Nat) -
        s'.apply ((decreaseExponent m' e' low).1 : Nat)) low .positive =
      UnpackedFloat.normalize Format.binary64 (s.apply ((decreaseExponent m e low).1 : Nat) +
        (-s').apply ((decreaseExponent m' e' low).1 : Nat)) low .positive
    rw [apply_neg, Int.sub_eq_add_neg]
  | .notANumber, y => cases y <;> rfl
  | .infinity _, y => cases y <;> rfl
  | .zero _, y => cases y <;> rfl
  | .finite .., .notANumber => rfl
  | .finite .., .infinity _ => rfl
  | .finite .., .zero _ => rfl

/-- Two finite numbers are subtracted without rounding when their difference is a whole multiple of
a power of two, fewer than `2 ^ 53` times. -/
theorem sub_exact {x y : Float} (hx : isFinite x = true) (hy : isFinite y = true) {n q : Int}
    (hsize : n.natAbs < 2 ^ 53) (hlow : -1074 ≤ q) (hhigh : q ≤ 971)
    (h : value x - value y = n * 2 ^ q) :
    isFinite (x - y) = true ∧ value (x - y) = value x - value y := by
  obtain ⟨hx, hxvalue⟩ := unpack_of_isFinite hx
  obtain ⟨hy, hyvalue⟩ := unpack_of_isFinite hy
  rw [← hxvalue, ← hyvalue, sub_eq_add_neg, ← exactValue_neg] at h ⊢
  obtain ⟨hsum, hvalue⟩ := add_exactValue hx (canonical_neg hy) hsize hlow hhigh h
  rw [← unpacked_sub_eq_add_neg] at hsum hvalue
  rw [← hvalue]
  exact pack_of_canonical hsum

section

variable {q : Int} (hlow : -1074 ≤ q) (hhigh : q ≤ 971)
include hlow hhigh

theorem InUnits.sub {x y : Float} {m n : Int} (hx : InUnits q x m) (hy : InUnits q y n)
    (hfew : (m - n).natAbs < 2 ^ 53) : InUnits q (x - y) (m - n) := by
  have hdifference : value x - value y = (m - n : Int) * 2 ^ q := by
    rw [hx.value_eq, hy.value_eq, Int.cast_sub, sub_mul]
  obtain ⟨hfinite, hvalue⟩ := sub_exact hx.finite hy.finite hfew hlow hhigh hdifference
  exact ⟨hfinite, hvalue.trans hdifference⟩

end

end TechCatalog.Decimal

namespace TechCatalog.Store

open Decimal

/-! ### Running sums -/

/-- A running sum of so many units, without an error so far. -/
structure RunningSum.Carries (q : Int) (s : RunningSum) (units : Int) : Prop where
  sum : InUnits q s.sum units
  error : InUnits q s.error 0

theorem RunningSum.carries_zero (q : Int) : RunningSum.Carries q {} 0 where
  sum := inUnits_zero q
  error := inUnits_zero q

section

variable {q : Int} (hlow : -1074 ≤ q) (hhigh : q ≤ 971)
include hlow hhigh

/-- What is taken off the sum again is all that was added, whichever of the two amounts is the
larger. -/
theorem RunningSum.Carries.add {s : RunningSum} {x : Float} {m n : Int} (h : s.Carries q m)
    (hx : InUnits q x n) (hfew : m.natAbs + n.natAbs < 2 ^ 53) : (s.add x).Carries q (m + n) := by
  have hsum : InUnits q (s.sum + x) (m + n) := h.sum.add hlow hhigh hx (by omega)
  have hfirst : InUnits q (s.sum - (s.sum + x) + x) (m - (m + n) + n) :=
    (h.sum.sub hlow hhigh hsum (by omega)).add hlow hhigh hx (by omega)
  have hsecond : InUnits q (x - (s.sum + x) + s.sum) (n - (m + n) + m) :=
    (hx.sub hlow hhigh hsum (by omega)).add hlow hhigh h.sum (by omega)
  have hnone : m - (m + n) + n = 0 := by omega
  have hnone' : n - (m + n) + m = 0 := by omega
  rw [hnone] at hfirst
  rw [hnone'] at hsecond
  -- Whichever branch the comparison takes, the error it finds is no unit at all.
  refine ⟨hsum, ?_⟩
  by_cases hless : x.abs < s.sum.abs
  · simp only [RunningSum.add, if_pos hless]
    exact h.error.add hlow hhigh hfirst (by decide)
  · simp only [RunningSum.add, if_neg hless]
    exact h.error.add hlow hhigh hsecond (by decide)

theorem RunningSum.Carries.foldl {xs : List Float} {counts : List Int}
    (hxs : List.Forall₂ (InUnits q) xs counts) {s : RunningSum} {m : Int} (h : s.Carries q m)
    (hfew : m.natAbs + (counts.map Int.natAbs).sum < 2 ^ 53) :
    (xs.foldl RunningSum.add s).Carries q (m + counts.sum) := by
  induction hxs generalizing s m with
  | nil =>
    rw [List.sum_nil, Int.add_zero]
    exact h
  | @cons x n xs counts hx _ ih =>
    rw [List.map_cons, List.sum_cons] at hfew
    have hsize := Int.natAbs_add_le m n
    have hnext := h.add hlow hhigh hx (by omega)
    rw [List.foldl_cons, List.sum_cons, ← Int.add_assoc]
    exact ih hnext (by omega)

/-- A sum without an error is its total. -/
theorem RunningSum.Carries.total {s : RunningSum} {m : Int} (h : s.Carries q m)
    (hfew : m.natAbs < 2 ^ 53) : InUnits q s.total m := by
  have hsum := h.sum.add hlow hhigh h.error (by omega)
  rw [RunningSum.total, if_pos h.error.finite]
  rwa [Int.add_zero] at hsum

theorem compensatedSum_exact {xs : List Float} (hfew : FewUnits q xs) :
    isFinite (compensatedSum xs) = true ∧ value (compensatedSum xs) = exactSum xs := by
  obtain ⟨counts, hcounts, hsize⟩ := hfew
  have hcarries := RunningSum.Carries.foldl hlow hhigh hcounts (RunningSum.carries_zero q) (by
    rw [Int.natAbs_zero, Nat.zero_add]
    exact hsize)
  rw [Int.zero_add] at hcarries
  -- Together the amounts are no larger than their sizes are, so the total fits as well.
  have hbound := List.le_sum_of_subadditive Int.natAbs Int.natAbs_zero.le Int.natAbs_add_le counts
  have htotal := hcarries.total hlow hhigh (by omega)
  exact ⟨htotal.finite, htotal.value_eq.trans (exactSum_of_inUnits hcounts).symm⟩

end

/-! ### Platforms -/

/-- What a platform gives as the sum of what is spent on some links is not rounded. -/
def Platform.SumsExactly (p : Platform) (links : List Link) : Prop :=
  isFinite (p.sum links) = true ∧ value (p.sum links) = exactSum (links.filterMap (·.spend))

/-- A platform does not round where no addition in any order has to. -/
def Platform.Faithful (p : Platform) : Prop :=
  ∀ (links : List Link) (q : Int), -1074 ≤ q → q ≤ 971 →
    FewUnits q (links.filterMap (·.spend)) → p.SumsExactly links

section

variable {p : Platform} {visit : List Link → List Link}
  (hvisit : ∀ links, (visit links).Perm links)
include hvisit

/-- A way of adding that does not round where no addition in any order has to is faithful, whatever
the order in which links are visited. -/
theorem Platform.faithful_of_exact {total : List Float → Float}
    (htotal : ∀ (xs : List Float) (q : Int), -1074 ≤ q → q ≤ 971 → FewUnits q xs →
      isFinite (total xs) = true ∧ value (total xs) = exactSum xs)
    (hsum : ∀ links, p.sum links = total ((visit links).filterMap (·.spend))) : p.Faithful := by
  intro links q hlow hhigh hfew
  have hperm := (hvisit links).filterMap (·.spend)
  obtain ⟨hfinite, hvalue⟩ := htotal _ q hlow hhigh (hfew.perm hperm.symm)
  rw [Platform.SumsExactly, hsum]
  exact ⟨hfinite, hvalue.trans (exactSum_perm hperm)⟩

theorem Platform.faithful_of_compensates
    (hsum : ∀ links, p.sum links = compensatedSum ((visit links).filterMap (·.spend))) :
    p.Faithful :=
  Platform.faithful_of_exact hvisit (fun _ _ hlow hhigh => compensatedSum_exact hlow hhigh) hsum

/-- Adding from left to right is faithful as well. -/
theorem Platform.faithful_of_adds
    (hsum : ∀ links, p.sum links = Profile.sumAmounts ((visit links).filterMap (·.spend))) :
    p.Faithful :=
  Platform.faithful_of_exact hvisit (fun _ _ hlow hhigh hfew => hfew.addsExactly hlow hhigh) hsum

end

theorem Platform.faithful_default : ({} : Platform).Faithful :=
  Platform.faithful_of_compensates (fun links => List.mergeSort_perm links _) fun _ => rfl

/-- Ten tenths make one, although a tenth is rounded. -/
example : compensatedSum (List.replicate 10 0.1) = 1 ∧
    Profile.sumAmounts (List.replicate 10 0.1) ≠ 1 := by
  decide +kernel

end TechCatalog.Store
