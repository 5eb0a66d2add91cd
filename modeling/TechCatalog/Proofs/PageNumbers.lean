import Mathlib.Algebra.Ring.Int.Defs
import Mathlib.Order.Bounds.Basic
import TechCatalog.Search.PageOrder

/-!
# Sizes and numbers of pages

Requests and settings may hold any number, however great and on whichever side of zero. The size of
a page is what is asked for, clamped between one and the greatest size. The number of the page
depends on it: of the pages up to the one asked for, the last whose offset is at most `2 ^ 63 - 1`
is shown.
-/

namespace TechCatalog.Search

open Request Service

/-- The nearest number from `low` to `high`. -/
def clamp (low high n : Int) : Int :=
  if n < low then low else if high < n then high else n

theorem clamp_eq_max_min {low high : Int} (h : low ≤ high) (n : Int) :
    clamp low high n = max low (min n high) := by
  unfold clamp
  split
  · omega
  · split <;> omega

/-- The size that is asked for, or else the usual size. Zero asks for nothing. -/
def wantedLimit (p : Paging) (s : Settings) : Int :=
  match p.limit with
  | none => s.defaultPageSize
  | some 0 => s.defaultPageSize
  | some n => n

theorem limitOf_eq_max_min (p : Paging) (s : Settings) :
    limitOf p s = max 1 (min (wantedLimit p s) s.maxPageSize) := by
  unfold limitOf wantedLimit
  cases p.limit with
  | none => rfl
  | some n =>
    by_cases hn : n = 0
    · subst hn
      rfl
    · simp [hn]

theorem limitOf_eq_clamp (p : Paging) (s : Settings) :
    limitOf p s = clamp 1 (max 1 s.maxPageSize) (wantedLimit p s) := by
  rw [limitOf_eq_max_min, clamp_eq_max_min (Int.le_max_left _ _)]
  -- Where the greatest size is below one, both sides are one.
  omega

theorem one_le_limitOf (p : Paging) (s : Settings) : 1 ≤ limitOf p s := by
  rw [limitOf]
  exact Int.le_max_left _ _

theorem limitOf_le (p : Paging) (s : Settings) : limitOf p s ≤ max 1 s.maxPageSize := by
  rw [limitOf_eq_max_min]
  omega

theorem maxOffset_eq : maxOffset = 2 ^ 63 - 1 := rfl

/-- Behind the last page whose offset fits there is no room for another. -/
theorem lt_offset_add_of_isGreatest {limit last : Int}
    (h : IsGreatest {n : Int | (n - 1) * limit ≤ maxOffset} last) :
    maxOffset < (last - 1) * limit + limit := by
  have hnext : (last + 1 - 1) * limit = (last - 1) * limit + limit := by
    rw [Int.add_sub_cancel, Int.sub_mul, Int.one_mul, Int.sub_add_cancel]
  by_contra hroom
  have hafter : last + 1 ≤ last := by
    apply h.2
    show (last + 1 - 1) * limit ≤ maxOffset
    omega
  omega

section

variable {limit : Int} (hlimit : 1 ≤ limit)
include hlimit

theorem offset_le_iff {n : Int} : (n - 1) * limit ≤ maxOffset ↔ n ≤ maxOffset / limit + 1 := by
  rw [← Int.le_ediv_iff_mul_le (by omega)]
  omega

theorem pageOf_eq_min (p : Paging) :
    pageOf p limit = min (max 1 p.page) (maxOffset / limit + 1) := by
  rw [pageOf, Int.fdiv_eq_ediv_of_nonneg _ (by omega)]

/-- Of the pages up to the one asked for, the last whose offset fits is shown. -/
theorem pageOf_isGreatest (p : Paging) :
    IsGreatest {n : Int | n ≤ max 1 p.page ∧ (n - 1) * limit ≤ maxOffset} (pageOf p limit) := by
  rw [pageOf_eq_min hlimit]
  constructor
  · exact ⟨Int.min_le_left _ _, (offset_le_iff hlimit).mpr (Int.min_le_right _ _)⟩
  · rintro n ⟨hasked, hfits⟩
    exact Int.le_min.mpr ⟨hasked, (offset_le_iff hlimit).mp hfits⟩

theorem one_le_pageOf (p : Paging) : 1 ≤ pageOf p limit := by
  -- The first page is always among those that fit.
  apply (pageOf_isGreatest hlimit p).2
  exact ⟨Int.le_max_left _ _, by simp only [Int.sub_self, Int.zero_mul]; decide⟩

theorem pageOf_eq_max {p : Paging} (hfits : (max 1 p.page - 1) * limit ≤ maxOffset) :
    pageOf p limit = max 1 p.page := by
  obtain ⟨⟨hasked, -⟩, hlast⟩ := pageOf_isGreatest hlimit p
  exact Int.le_antisymm hasked (hlast ⟨Int.le_refl _, hfits⟩)

theorem pageOf_eq {p : Paging} (hpage : 1 ≤ p.page) (hoffset : (p.page - 1) * limit ≤ maxOffset) :
    pageOf p limit = p.page := by
  have hmax : max 1 p.page = p.page := Int.max_eq_right hpage
  rw [pageOf_eq_max hlimit (by rwa [hmax]), hmax]

/-- In place of a page too far behind, the last of all pages whose offset fits is shown. -/
theorem pageOf_isGreatest_of_lt {p : Paging} (hfar : maxOffset < (max 1 p.page - 1) * limit) :
    IsGreatest {n : Int | (n - 1) * limit ≤ maxOffset} (pageOf p limit) := by
  obtain ⟨⟨-, hfits⟩, hlast⟩ := pageOf_isGreatest hlimit p
  refine ⟨hfits, fun n hn => ?_⟩
  have hbefore : n ≤ max 1 p.page := by
    have hpages := (offset_le_iff hlimit).mp hn
    have hbeyond := mt (offset_le_iff hlimit).mpr (Int.not_le.mpr hfar)
    omega
  exact hlast ⟨hbefore, hn⟩

end

/-- The number of domains on the pages before is never negative and never beyond the largest. -/
theorem offset_bounds (p : Paging) (s : Settings) :
    0 ≤ (PageOrder.of p s).1.offset ∧ (PageOrder.of p s).1.offset ≤ maxOffset := by
  have hlimit := one_le_limitOf p s
  have hpage := one_le_pageOf hlimit p
  constructor
  · exact Int.mul_nonneg (show 0 ≤ pageOf p (limitOf p s) - 1 by omega)
      (show 0 ≤ limitOf p s by omega)
  · exact (pageOf_isGreatest hlimit p).1.2

/-- Whatever the numbers in a request and in the settings, the size of the page lies between one and
the greatest size and is the one that is wanted, clamped; the offset is that of the page, and at
most `2 ^ 63 - 1`; and the page is the one that is asked for, or the first in place of none, unless
its offset is beyond that. Then it is the last page whose offset is not. -/
theorem page_arithmetic (p : Paging) (s : Settings) :
    (1 ≤ (PageOrder.of p s).1.limit ∧ (PageOrder.of p s).1.limit ≤ max 1 s.maxPageSize) ∧
    (PageOrder.of p s).1.limit = clamp 1 (max 1 s.maxPageSize) (wantedLimit p s) ∧
    1 ≤ (PageOrder.of p s).1.page ∧
    (PageOrder.of p s).1.offset =
      ((PageOrder.of p s).1.page - 1) * (PageOrder.of p s).1.limit ∧
    (0 ≤ (PageOrder.of p s).1.offset ∧ (PageOrder.of p s).1.offset ≤ 2 ^ 63 - 1) ∧
    ((max 1 p.page - 1) * (PageOrder.of p s).1.limit ≤ 2 ^ 63 - 1 →
      (PageOrder.of p s).1.page = max 1 p.page) ∧
    (2 ^ 63 - 1 < (max 1 p.page - 1) * (PageOrder.of p s).1.limit →
      IsGreatest {n : Int | (n - 1) * (PageOrder.of p s).1.limit ≤ 2 ^ 63 - 1}
        (PageOrder.of p s).1.page ∧
      2 ^ 63 - 1 < (PageOrder.of p s).1.offset + (PageOrder.of p s).1.limit) := by
  have hlimit := one_le_limitOf p s
  rw [← maxOffset_eq]
  refine ⟨⟨hlimit, limitOf_le p s⟩, limitOf_eq_clamp p s, one_le_pageOf hlimit p, rfl,
    offset_bounds p s, pageOf_eq_max hlimit, fun hfar => ?_⟩
  have hlast := pageOf_isGreatest_of_lt hlimit hfar
  exact ⟨hlast, lt_offset_add_of_isGreatest hlast⟩

/-- The settings of the witnesses allow pages of up to seven. -/
def sevenAtMost : Settings := { maxPageSize := 7 }

/-- The last page that fits, and pages on both sides of it. -/
theorem page_arithmetic_last :
    (PageOrder.of { limit := some 10, page := 1317624576693539402 } sevenAtMost).1.page =
      1317624576693539402 ∧
    (PageOrder.of { limit := some 10, page := 1317624576693539403 } sevenAtMost).1.page =
      1317624576693539402 ∧
    2 ^ 63 - 1 < 7 +
      (PageOrder.of { limit := some 10, page := 1317624576693539403 } sevenAtMost).1.offset := by
  obtain ⟨-, -, -, -, -, hfits, -⟩ :=
    page_arithmetic { limit := some 10, page := 1317624576693539402 } sevenAtMost
  obtain ⟨-, -, -, -, -, -, hfar⟩ :=
    page_arithmetic { limit := some 10, page := 1317624576693539403 } sevenAtMost
  obtain ⟨hlast, hroom⟩ := hfar (by decide)
  refine ⟨(hfits (by decide)).trans (by decide), ?_, by rwa [Int.add_comm] at hroom⟩
  exact Int.le_antisymm ((offset_le_iff (by decide)).mp hlast.1) (hlast.2 (by decide))

end TechCatalog.Search
