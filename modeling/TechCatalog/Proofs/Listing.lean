import TechCatalog.Proofs.Matching
import TechCatalog.Proofs.SortKeys

/-!
# The listing that pages are cut from

The domains that match a search, each once, stand in one list: by the sort column, in the direction
that is asked for, and where that leaves a tie by the number of the domain. An empty cell comes
before every value, so it stands first in ascending and last in descending order; a domain without
statistics has an empty cell in their columns. The rows that a page statement orders are this list.
-/

namespace TechCatalog.Store

/-- Values of different kinds are ordered by kind. -/
theorem Value.order_eq_of_rank_ne {v w : Value} (h : v.rank ≠ w.rank) :
    v.order w = compare v.rank w.rank := by
  cases v <;> cases w <;> first | rfl | exact absurd rfl h

theorem Value.order_swap (v w : Value) : v.order w = (w.order v).swap := by
  cases v <;> cases w <;> exact Std.OrientedOrd.eq_swap

theorem Value.rank_le {v w : Value} (h : (v.order w).isLE = true) : v.rank ≤ w.rank := by
  by_cases hr : v.rank = w.rank
  · exact Nat.le_of_eq hr
  · rw [order_eq_of_rank_ne hr] at h
    exact Nat.isLE_compare.mp h

theorem Value.order_trans {u v w : Value} (huv : (u.order v).isLE = true)
    (hvw : (v.order w).isLE = true) : (u.order w).isLE = true := by
  have hle := Nat.le_trans (rank_le huv) (rank_le hvw)
  by_cases hr : u.rank = w.rank
  · have hu : u.rank = v.rank := Nat.le_antisymm (rank_le huv) (hr ▸ rank_le hvw)
    have hw : v.rank = w.rank := hu.symm.trans hr
    -- All three values are of one kind, and each kind has an order of its own.
    cases u <;> cases v <;> first
      | exact absurd hu (Nat.ne_of_beq_eq_false rfl)
      | cases w <;> first
        | exact absurd hw (Nat.ne_of_beq_eq_false rfl)
        | exact Std.TransOrd.isLE_trans huv hvw
  · rw [order_eq_of_rank_ne hr]
    exact Nat.isLE_compare.mpr hle

instance : Std.TransCmp Value.order where
  eq_swap := Value.order_swap _ _
  isLE_trans := Value.order_trans

instance : Std.OrientedCmp cellOrder where
  eq_swap {v w} := by
    cases v with
    | none => cases w <;> rfl
    | some v =>
      cases w with
      | none => rfl
      | some w => exact Value.order_swap v w

instance : Std.TransCmp cellOrder where
  isLE_trans {u v w} huv hvw := by
    cases u with
    | none => cases w <;> rfl
    | some u =>
      cases v with
      | none => exact absurd huv Bool.false_ne_true
      | some v =>
        cases w with
        | none => exact absurd hvw Bool.false_ne_true
        | some w => exact Value.order_trans huv hvw

end TechCatalog.Store

namespace TechCatalog.Search

open Request Store Query

/-- The cell by which a domain is sorted. -/
def sortCell (db : Database) (c : Column) (d : Domain) : Option Value :=
  match c with
  | .ofDomain c => d.get c
  | .ofStats c => (statsOf db d.id).bind fun s => s.get c
  | _ => none

/-- The order of cells in a direction. -/
def directedOrder (descending : Bool) (v w : Option Value) : Ordering :=
  if descending then cellOrder w v else cellOrder v w

instance (descending : Bool) : Std.TransCmp (directedOrder descending) := by
  cases descending
  · exact inferInstanceAs (Std.TransCmp cellOrder)
  · exact inferInstanceAs (Std.TransCmp fun v w => cellOrder w v)

theorem directedOrder_swap (descending : Bool) (v w : Option Value) :
    directedOrder descending v w = (directedOrder descending w v).swap :=
  Std.OrientedCmp.eq_swap

theorem directedOrder_trans {descending : Bool} {u v w : Option Value}
    (huv : (directedOrder descending u v).isLE = true)
    (hvw : (directedOrder descending v w).isLE = true) :
    (directedOrder descending u w).isLE = true :=
  Std.TransCmp.isLE_trans huv hvw

instance (db : Database) (c : Column) (descending : Bool) :
    Std.TransCmp fun d e : Domain =>
      directedOrder descending (sortCell db c d) (sortCell db c e) where
  eq_swap := directedOrder_swap _ _ _
  isLE_trans := directedOrder_trans

/-- The order of a listing: by the sort column, then by the number of the domain. -/
def listingOrder (db : Database) (c : Column) (descending : Bool) : Domain → Domain → Ordering :=
  compareLex (fun d e => directedOrder descending (sortCell db c d) (sortCell db c e))
    (compareOn (·.id))

instance (db : Database) (c : Column) (descending : Bool) :
    Std.TransCmp (listingOrder db c descending) :=
  inferInstanceAs (Std.TransCmp (compareLex _ _))

theorem listingOrder_swap (db : Database) (c : Column) (descending : Bool) (d e : Domain) :
    listingOrder db c descending d e = (listingOrder db c descending e d).swap :=
  Std.OrientedCmp.eq_swap

/-- The domains that match a search, in order. -/
def listing (db : Database) (f : Filters) (c : Column) (descending : Bool) : List Domain :=
  (db.domains.filter fun d => decide (Matches db f d)).mergeSort fun d e =>
    (listingOrder db c descending d e).isLE

section

variable {db : Database} {f : Filters} {c : Column} {descending : Bool}

theorem mem_listing {d : Domain} :
    d ∈ listing db f c descending ↔ d ∈ db.domains ∧ Matches db f d := by
  rw [listing, List.mem_mergeSort, List.mem_filter, decide_eq_true_eq]

theorem listing_perm : (listing db f c descending).Perm
    (db.domains.filter fun d => decide (Matches db f d)) :=
  List.mergeSort_perm _ _

theorem length_listing : (listing db f c descending).length =
    db.domains.countP fun d => decide (Matches db f d) := by
  rw [listing_perm.length_eq, List.countP_eq_length_filter]

theorem listing_nodup (h : db.Sound) : (listing db f c descending).Nodup :=
  listing_perm.nodup_iff.mpr (h.domains_nodup.filter _)

theorem mergeSort_sorted (ds : List Domain) :
    (ds.mergeSort fun d e => (listingOrder db c descending d e).isLE).Pairwise fun d e =>
      (listingOrder db c descending d e).isLE = true := by
  refine List.pairwise_mergeSort ?_ ?_ ds
  · intro a b c' hab hbc
    exact Std.TransCmp.isLE_trans hab hbc
  · intro a b
    rw [listingOrder_swap db c descending b]
    cases listingOrder db c descending a b <;> rfl

/-- A listing stands in the order that is asked for. -/
theorem listing_sorted : (listing db f c descending).Pairwise fun d e =>
    (listingOrder db c descending d e).isLE = true :=
  mergeSort_sorted _

/-- A domain that comes before another in a listing does so by the sort column, unless they tie. -/
theorem directedOrder_of_listingOrder {d e : Domain}
    (h : (listingOrder db c descending d e).isLE = true) :
    (directedOrder descending (sortCell db c d) (sortCell db c e)).isLE = true := by
  rw [listingOrder, compareLex] at h
  cases hcells : directedOrder descending (sortCell db c d) (sortCell db c e) with
  | lt => rfl
  | eq => rfl
  | gt =>
    rw [hcells] at h
    exact h

/-- No two domains have the same place in a listing. -/
theorem listingOrder_antisymm (h : db.Sound) {d e : Domain} (hd : d ∈ db.domains)
    (he : e ∈ db.domains) (hde : (listingOrder db c descending d e).isLE = true)
    (hed : (listingOrder db c descending e d).isLE = true) : d = e := by
  have heq := Std.OrientedCmp.isLE_antisymm hde hed
  rw [listingOrder, compareLex_eq_eq] at heq
  exact h.domain_eq hd he (Std.LawfulEqOrd.eq_of_compare heq.2)

/-- The listing does not depend on the order in which its domains are found. -/
theorem mergeSort_eq_listing (h : db.Sound) {ds : List Domain}
    (hds : ds.Perm (db.domains.filter fun d => decide (Matches db f d))) :
    (ds.mergeSort fun d e => (listingOrder db c descending d e).isLE) =
      listing db f c descending := by
  refine List.Perm.eq_of_pairwise ?_ (mergeSort_sorted ds) listing_sorted ?_
  · intro d e hd he hde hed
    have hd' := hds.mem_iff.mp (List.mem_mergeSort.mp hd)
    exact listingOrder_antisymm h (List.mem_of_mem_filter hd') (mem_listing.mp he).1 hde hed
  · exact (List.mergeSort_perm _ _).trans (hds.trans listing_perm.symm)

end

/-- What a page statement gives for a domain. -/
def sortedRow (db : Database) (c : Column) (d : Domain) : SortedRow := ⟨d, sortCell db c d⟩

/-- Every joined row of a domain has the same cell in the sort column. -/
theorem get_sortColumn {db : Database} (h : db.Sound) (f : Filters) {o : PageOrder}
    (hc : o.key ∈ SortKey.all) {d : Domain} {r : JoinedRow}
    (hr : r ∈ rowsOf db (joinOrder.filter (joinNeeded f o.needsStats)) d) :
    r.get o.key.column = sortCell db o.key.column d := by
  rw [rowsOf_eq_map h] at hr
  obtain ⟨link, -, rfl⟩ := List.mem_map.mp hr
  cases hcol : o.key.column with
  | ofDomain c => rfl
  | ofStats c =>
    have hstats : joinNeeded f o.needsStats .stats = true := by
      rw [joinNeeded_stats, needsStats_eq hc, hcol]
      exact Bool.or_true _
    simp only [JoinedRow.get, plannedRow, hstats, if_true, sortCell]
  | ofTechnology c =>
    have hsortable := sortableColumn_of_mem hc
    rw [hcol] at hsortable
    exact absurd hsortable (by cases c <;> decide)
  | ofLink c =>
    have hsortable := sortableColumn_of_mem hc
    rw [hcol] at hsortable
    exact absurd hsortable (by cases c <;> decide)

theorem before_sortedRow (db : Database) (c : Column) (descending : Bool) (d e : Domain) :
    SortedRow.before descending (sortedRow db c d) (sortedRow db c e) =
      (listingOrder db c descending d e).isLE := by
  have hid : (compare d.id e.id).isLE = decide (d.id ≤ e.id) := by
    rw [Bool.eq_iff_iff, decide_eq_true_eq]
    exact Int.isLE_compare
  cases descending with
  | false =>
    simp only [SortedRow.before, sortedRow, listingOrder, compareLex, compareOn, directedOrder,
      Bool.false_eq_true, if_false]
    cases cellOrder (sortCell db c d) (sortCell db c e)
    · rfl
    · exact hid.symm
    · rfl
  | true =>
    simp only [SortedRow.before, sortedRow, listingOrder, compareLex, compareOn, directedOrder,
      if_true]
    cases cellOrder (sortCell db c e) (sortCell db c d)
    · rfl
    · exact hid.symm
    · rfl

/-- The rows that a page statement orders are the listing, whatever is joined. -/
theorem sorted_eq_listing {db : Database} (h : db.Sound) (f : Filters) {o : PageOrder}
    (hc : o.key ∈ SortKey.all) :
    (composePair f o).page.sorted db =
      (listing db f o.key.column o.descending).map (sortedRow db o.key.column) := by
  let rows := (((composePair f o).selection.rows db).map fun r =>
    SortedRow.mk r.domain (r.get o.key.column)).eraseDups
  -- The extra column that is selected does not tell rows of one domain apart.
  have hkeys : rows = (rows.map (·.domain)).map (sortedRow db o.key.column) := by
    rw [List.map_map]
    refine ((List.map_congr_left fun row hrow => ?_).trans (List.map_id rows)).symm
    obtain ⟨r, hr, rfl⟩ := List.mem_map.mp (List.mem_eraseDups.mp hrow)
    obtain ⟨⟨-, hown⟩, -⟩ := mem_rows.mp hr
    simp only [Function.comp_apply, sortedRow, get_sortColumn h f hc hown, id_eq]
  have hnodup : (rows.map (·.domain)).Nodup := by
    refine List.Nodup.of_map (sortedRow db o.key.column) ?_
    rw [← hkeys]
    exact nodup_eraseDups _
  have hmem : ∀ d, d ∈ rows.map (·.domain) ↔ d ∈ db.domains ∧ Matches db f d := by
    intro d
    rw [← mem_sorted_domains h (o := o), PageQuery.sorted]
    simp only [List.mem_map, List.mem_mergeSort]
    rfl
  have hperm : (rows.map (·.domain)).Perm
      (db.domains.filter fun d => decide (Matches db f d)) := by
    refine (List.perm_ext_iff_of_nodup hnodup (h.domains_nodup.filter _)).mpr fun d => ?_
    rw [hmem, List.mem_filter, decide_eq_true_eq]
  calc
    (composePair f o).page.sorted db = rows.mergeSort (SortedRow.before o.descending) := rfl
    _ = ((rows.map (·.domain)).map (sortedRow db o.key.column)).mergeSort
        (SortedRow.before o.descending) := by rw [← hkeys]
    _ = ((rows.map (·.domain)).mergeSort fun d e =>
        (listingOrder db o.key.column o.descending d e).isLE).map
          (sortedRow db o.key.column) := by
      refine (List.map_mergeSort fun d _ e _ => ?_).symm
      exact (before_sortedRow db o.key.column o.descending d e).symm
    _ = (listing db f o.key.column o.descending).map (sortedRow db o.key.column) := by
      rw [mergeSort_eq_listing h hperm]

end TechCatalog.Search
