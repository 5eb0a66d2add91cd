import TechCatalog.Proofs.Keys
import TechCatalog.Search.Joins

/-!
# The joined rows of a search

The rows of a search are the rows of its domains, one domain after another. In a sound store the
rows of one domain differ in their link only: the technology is the one that the link refers to, and
the statistics are those of the domain. So joining multiplies a domain by its links, and by nothing
else.
-/

namespace TechCatalog.Query

open Store

/-- The joined rows of one domain. -/
def rowsOf (db : Database) (joins : List JoinTable) (d : Domain) : List JoinedRow :=
  joins.foldl (fun rows j => rows.flatMap (j.extend db)) [{ domain := d }]

theorem foldl_extend_flatMap {α : Type} (db : Database) (joins : List JoinTable)
    (start : α → List JoinedRow) (xs : List α) :
    joins.foldl (fun rows j => rows.flatMap (j.extend db)) (xs.flatMap start) =
      xs.flatMap fun x => joins.foldl (fun rows j => rows.flatMap (j.extend db)) (start x) := by
  induction joins generalizing start with
  | nil => rfl
  | cons j joins ih =>
    simp only [List.foldl_cons]
    rw [List.flatMap_assoc]
    exact ih fun x => (start x).flatMap (j.extend db)

/-- Joining goes domain by domain. -/
theorem joinedRows_eq_flatMap (db : Database) (joins : List JoinTable) :
    joinedRows db joins = db.domains.flatMap (rowsOf db joins) := by
  have h := foldl_extend_flatMap db joins (fun d => [{ domain := d }]) db.domains
  rw [← List.map_eq_flatMap] at h
  exact h

/-- Joining keeps the domain of a row. -/
theorem domain_of_mem_extend {db : Database} {j : JoinTable} {r r' : JoinedRow}
    (h : r' ∈ j.extend db r) : r'.domain = r.domain := by
  cases j <;> obtain ⟨_, -, rfl⟩ := List.mem_map.mp h <;> rfl

theorem domain_of_mem_rowsOf {db : Database} {joins : List JoinTable} {d : Domain} {r : JoinedRow}
    (h : r ∈ rowsOf db joins d) : r.domain = d := by
  suffices hgo : ∀ rows : List JoinedRow, (∀ x ∈ rows, x.domain = d) →
      ∀ x ∈ joins.foldl (fun rows j => rows.flatMap (j.extend db)) rows, x.domain = d from
    hgo _ (List.forall_mem_singleton.mpr rfl) r h
  clear h
  induction joins with
  | nil =>
    intro rows hrows
    exact hrows
  | cons j joins ih =>
    intro rows hrows
    apply ih
    intro x hx
    obtain ⟨y, hy, hxy⟩ := List.mem_flatMap.mp hx
    rw [domain_of_mem_extend hxy]
    exact hrows y hy

theorem mem_joinedRows {db : Database} {joins : List JoinTable} {r : JoinedRow} :
    r ∈ joinedRows db joins ↔ r.domain ∈ db.domains ∧ r ∈ rowsOf db joins r.domain := by
  rw [joinedRows_eq_flatMap, List.mem_flatMap]
  constructor
  · rintro ⟨e, he, hr⟩
    rw [domain_of_mem_rowsOf hr]
    exact ⟨he, hr⟩
  · rintro ⟨hd, hr⟩
    exact ⟨r.domain, hd, hr⟩

theorem mem_orNothing {α : Type} {xs : List α} {o : Option α} :
    o ∈ orNothing xs ↔ (xs = [] ∧ o = none) ∨ ∃ x ∈ xs, o = some x := by
  cases xs with
  | nil => simp [orNothing]
  | cons x xs =>
    simp only [orNothing, List.isEmpty_cons, Bool.false_eq_true, if_false, List.mem_map,
      reduceCtorEq, false_and, false_or]
    exact exists_congr fun y => and_congr_right fun _ => eq_comm

theorem orNothing_ne_nil {α : Type} (xs : List α) : orNothing xs ≠ [] := by
  cases xs <;> simp [orNothing]

/-- Joining by a key adds the row that a search for the key finds, and no other. -/
theorem orNothing_filter_key {α : Type} {key : α → Int} {xs : List α} (h : (xs.map key).Nodup)
    (i : Int) : orNothing (xs.filter fun x => key x == i) = [xs.find? fun x => key x == i] := by
  rw [filter_key_eq h]
  cases xs.find? fun x => key x == i <;> rfl

theorem extend_technologies {db : Database} (h : db.Sound) (r : JoinedRow) :
    JoinTable.technologies.extend db r =
      [{ r with technology := r.link.bind (technologyOf db) }] := by
  rw [JoinTable.extend]
  cases r.link with
  | none => simp [orNothing]
  | some l =>
    have hkey := orNothing_filter_key h.technology_ids l.technologyId
    simp only [Option.any_some, Option.bind_some, technologyOf, Bool.beq_comm (a := l.technologyId)]
    rw [hkey, List.map_singleton]

theorem extend_stats {db : Database} (h : db.Sound) (r : JoinedRow) :
    JoinTable.stats.extend db r = [{ r with stats := statsOf db r.domain.id }] := by
  rw [JoinTable.extend]
  have hkey := orNothing_filter_key h.stats_domains r.domain.id
  rw [hkey, List.map_singleton]
  rfl

/-- The links with which a domain is joined: each of its links, or nothing once. -/
def linkChoices (db : Database) (needed : JoinTable → Bool) (d : Domain) : List (Option Link) :=
  if needed .links then orNothing (linksOf db d.id) else [none]

/-- The joined row of a domain with a link. -/
def plannedRow (db : Database) (needed : JoinTable → Bool) (d : Domain) (link : Option Link) :
    JoinedRow where
  domain := d
  link := link
  technology := if needed .technologies then link.bind (technologyOf db) else none
  stats := if needed .stats then statsOf db d.id else none

/-- The rows of a domain, where tables are joined in the usual order. -/
theorem rowsOf_eq_map {db : Database} (h : db.Sound) (needed : JoinTable → Bool) (d : Domain) :
    rowsOf db (Search.joinOrder.filter needed) d =
      (linkChoices db needed d).map (plannedRow db needed d) := by
  have hlinks : rowsOf db ([JoinTable.links].filter needed) d =
      (linkChoices db needed d).map fun link => { domain := d, link := link } := by
    cases hn : needed .links <;>
      simp [rowsOf, linkChoices, hn, JoinTable.extend]
  -- A table that is joined by a key adds one row to each row, or is left out.
  have hstep : ∀ (rows : List JoinedRow) (j : JoinTable) (f : JoinedRow → JoinedRow),
      (∀ r, j.extend db r = [f r]) →
      ([j].filter needed).foldl (fun rows j => rows.flatMap (j.extend db)) rows =
        rows.map fun r => if needed j then f r else r := by
    intro rows j f hf
    cases hn : needed j with
    | false => simp [hn]
    | true => simp [hn, funext hf, ← List.map_eq_flatMap]
  have horder : Search.joinOrder = [.links] ++ [.technologies] ++ [.stats] := rfl
  rw [rowsOf] at hlinks
  rw [rowsOf, horder, List.filter_append, List.filter_append, List.foldl_append,
    List.foldl_append, hlinks, hstep _ .technologies _ (extend_technologies h),
    hstep _ .stats _ (extend_stats h), List.map_map, List.map_map]
  refine List.map_congr_left fun link _ => ?_
  cases ht : needed .technologies <;> cases hs : needed .stats <;>
    simp [plannedRow, ht, hs]

end TechCatalog.Query
