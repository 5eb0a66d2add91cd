import TechCatalog.Proofs.Keys
import TechCatalog.Stats.Rebuild

/-!
# What a rebuild leaves

A rebuild that succeeds leaves the store as it was but for the table of statistics, which then holds
one row for every domain, computed from the links. Inserting a row keeps the numbers of the rows
distinct, so the rebuilt store is as sound as it was before.
-/

namespace TechCatalog.Store

theorem foldl_max_le {ids : List Int} {start i : Int} (h : i ≤ start ∨ i ∈ ids) :
    i ≤ ids.foldl max start := by
  induction ids generalizing start with
  | nil => exact h.resolve_right List.not_mem_nil
  | cons j rest ih =>
    refine ih ?_
    rcases h with hle | hmem
    · exact .inl (Int.le_trans hle (Int.le_max_left _ _))
    · rcases List.mem_cons.mp hmem with rfl | hrest
      · exact .inl (Int.le_max_right _ _)
      · exact .inr hrest

/-- The number of a new row is not the number of another. -/
theorem nextId_not_mem (ids : List Int) : nextId ids ∉ ids := by
  intro hmem
  have hle : nextId ids ≤ ids.foldl max 0 := foldl_max_le (.inr hmem)
  rw [nextId] at hle
  omega

end TechCatalog.Store

namespace TechCatalog.Stats

open Store Query

/-- Some rows of statistics are what the recipes for rows give under some numbers. -/
def Filled (recipes : List (Int → Store.Stats)) (rows : List Store.Stats) : Prop :=
  List.Forall₂ (fun recipe row => ∃ id, row = recipe id) recipes rows

/-- The session after inserting rows of statistics. -/
def appendStats (s : Session) (rows : List Store.Stats) : Session :=
  { s with working := { s.working with stats := s.working.stats ++ rows } }

theorem appendStats_append (s : Session) (first second : List Store.Stats) :
    appendStats (appendStats s first) second = appendStats s (first ++ second) := by
  simp only [appendStats, List.append_assoc]

/-- Inserting a row keeps the numbers of the rows distinct. -/
theorem appendStats_ids {s : Session} (hs : (s.working.stats.map (·.id)).Nodup)
    (row : Store.Stats) (hrow : row.id = nextId (s.working.stats.map (·.id))) :
    ((appendStats s [row]).working.stats.map (·.id)).Nodup := by
  have hnew := nextId_not_mem (s.working.stats.map (·.id))
  rw [← hrow] at hnew
  rw [appendStats, List.map_append, List.map_singleton, ← List.concat_eq_append]
  exact hs.concat hnew

/-- Inserting rows adds one row for every recipe, and the numbers of the rows stay distinct. -/
theorem insertRows_ok {trouble : Trouble} {s s' : Session} {n : Nat}
    {recipes : List (Int → Store.Stats)} (h : insertRows trouble s n recipes = (s', .ok ()))
    (hid : ∀ recipe ∈ recipes, ∀ id, (recipe id).id = id)
    (hs : (s.working.stats.map (·.id)).Nodup) :
    ∃ rows, Filled recipes rows ∧ s' = appendStats s rows ∧
      (s'.working.stats.map (·.id)).Nodup := by
  -- The session changes with every row, so the invariant on its numbers is carried along.
  induction recipes generalizing s n with
  | nil =>
    cases h
    refine ⟨[], .nil, ?_, hs⟩
    rw [appendStats, List.append_nil]
  | cons recipe rest ih =>
    rw [List.forall_mem_cons] at hid
    rw [insertRows] at h
    split at h
    · cases h
    · let row := recipe (nextId (s.working.stats.map (·.id)))
      have hids := appendStats_ids hs row (hid.1 _)
      obtain ⟨rows, hfilled, hsession, hids'⟩ := ih (s := appendStats s [row]) h hid.2 hids
      rw [appendStats_append] at hsession
      exact ⟨row :: rows, .cons ⟨_, rfl⟩ hfilled, hsession, hids'⟩

/-- One store is another after its statistics were rebuilt. -/
structure Rebuilt (db db' : Database) : Prop where
  /-- Nothing but the statistics has changed. -/
  same : db' = { db with stats := db'.stats }
  /-- The rows of statistics are computed from the totals, in their order. -/
  rows : Filled ((totals db).map (rowOf db)) db'.stats
  /-- The numbers of the rows are distinct. -/
  ids : (db'.stats.map (·.id)).Nodup

/-- A rebuild that succeeds leaves a rebuilt store, which is not yet permanent, and gives the number
of its domains. -/
theorem rebuild_ok {trouble : Trouble} {s s' : Session} {n : Nat}
    (h : rebuild trouble s = (s', .ok n)) :
    Rebuilt s.working s'.working ∧ s'.committed = s.committed ∧ n = s.working.domains.length := by
  simp only [rebuild] at h
  split at h
  · cases h
  · split at h
    · cases h
    · split at h
      · cases h
      · rw [Prod.mk.injEq] at h
        obtain ⟨hsession, hresult⟩ := h
        cases hinsert : (insertRows trouble { s with working := { s.working with stats := [] } } 1
            ((totals s.working).map (rowOf s.working))).2 with
        | error e =>
          rw [hinsert] at hresult
          cases hresult
        | ok u =>
          rw [hinsert] at hresult
          obtain ⟨rows, hfilled, hafter, hids⟩ := insertRows_ok (Prod.ext hsession hinsert)
            (by simp [rowOf]) List.nodup_nil
          subst hafter
          refine ⟨⟨rfl, hfilled, hids⟩, rfl, ?_⟩
          rw [← Except.ok.inj hresult, totals, List.length_map, List.length_mergeSort]

namespace Rebuilt

variable {db db' : Database}

theorem domains (h : Rebuilt db db') : db'.domains = db.domains := by rw [h.same]

theorem technologies (h : Rebuilt db db') : db'.technologies = db.technologies := by rw [h.same]

theorem links (h : Rebuilt db db') : db'.links = db.links := by rw [h.same]

theorem linksOf (h : Rebuilt db db') (domainId : Int) :
    Query.linksOf db' domainId = Query.linksOf db domainId := by
  rw [Query.linksOf, h.links, Query.linksOf]

theorem technologyOf (h : Rebuilt db db') (l : Link) :
    Query.technologyOf db' l = Query.technologyOf db l := by
  rw [Query.technologyOf, h.technologies, Query.technologyOf]

theorem linksResolve (h : Rebuilt db db') (hl : db.LinksResolve) : db'.LinksResolve where
  domain := by
    rw [h.links, h.domains]
    exact hl.domain
  technology := by
    rw [h.links, h.technologies]
    exact hl.technology

/-- The rows of statistics are about the domains, each in one row. -/
theorem stats_domains_perm (h : Rebuilt db db') :
    (db'.stats.map (·.domainId)).Perm (db.domains.map (·.id)) := by
  have hids : (totals db).map (·.domainId) = db'.stats.map (·.domainId) := by
    rw [← List.forall₂_eq_eq_eq, List.forall₂_map_left_iff, List.forall₂_map_right_iff]
    refine (List.forall₂_map_left_iff.mp h.rows).imp ?_
    rintro t _ ⟨id, rfl⟩
    rfl
  rw [← hids, totals, List.map_map]
  exact (List.mergeSort_perm _ _).map _

theorem stats_domains (h : Rebuilt db db') (hids : (db.domains.map (·.id)).Nodup) :
    (db'.stats.map (·.domainId)).Nodup :=
  h.stats_domains_perm.nodup_iff.mpr hids

theorem cells (h : Rebuilt db db') {t : Table} (ht : t ≠ .stats) : db'.cells t = db.cells t := by
  rw [h.same]
  cases t <;> first | rfl | exact absurd rfl ht

/-- A rebuilt store is sound. -/
theorem sound (h : Rebuilt db db') (hs : db.Sound) : db'.Sound where
  keys t c hc hk := by
    by_cases ht : t = .stats
    · subst ht
      have hid : ∀ c ∈ Table.stats.columns, c.isKey = true → c = .ofStats .id := by decide
      have hinj : Function.Injective fun i : Int => some (Value.int i) :=
        fun i j hij => Value.int.inj (Option.some.inj hij)
      have hcells := h.ids.map hinj
      rw [List.map_map] at hcells
      rw [hid c hc hk, Database.cells, List.map_map]
      exact hcells
    · rw [h.cells ht]
      exact hs.keys t c hc hk
  uniques t u hu := by
    by_cases ht : t = .stats
    · subst ht
      have hset : ∀ u ∈ Table.stats.uniques, u.1 = [.ofStats .domainId] := by decide
      have hinj : Function.Injective fun i : Int => [some (Value.int i)] :=
        fun i j hij => Value.int.inj (Option.some.inj (List.cons.inj hij).1)
      have hcells := (h.stats_domains hs.domain_ids).map hinj
      rw [List.map_map] at hcells
      rw [hset u hu, Database.cells, List.map_map]
      exact hcells
    · rw [h.cells ht]
      exact hs.uniques t u hu

/-- The statistics of a domain in a rebuilt store are computed from its links. -/
theorem statsOf_eq (h : Rebuilt db db') (hids : (db.domains.map (·.id)).Nodup) {d : Domain}
    (hd : d ∈ db.domains) : ∃ id, statsOf db' d.id = some (rowOf db (totalsOf db d) id) := by
  have htotals : totalsOf db d ∈ totals db := by
    rw [totals]
    exact List.mem_map_of_mem (List.mem_mergeSort.mpr hd)
  obtain ⟨row, hrow, id, rfl⟩ := exists_of_forall₂ (List.forall₂_map_left_iff.mp h.rows) htotals
  exact ⟨id, (find?_key_eq_some_iff (h.stats_domains hids) d.id _).mpr ⟨hrow, rfl⟩⟩

/-- Every domain has one row of statistics in a rebuilt store. -/
theorem filter_stats (h : Rebuilt db db') (hids : (db.domains.map (·.id)).Nodup) {d : Domain}
    (hd : d ∈ db.domains) :
    ∃ id, db'.stats.filter (fun r => r.domainId == d.id) = [rowOf db (totalsOf db d) id] := by
  obtain ⟨id, hrow⟩ := h.statsOf_eq hids hd
  rw [statsOf] at hrow
  refine ⟨id, ?_⟩
  rw [filter_key_eq (h.stats_domains hids), hrow]
  rfl

/-- The number of technologies that a rebuild keeps of a domain is the number of its links. -/
theorem statsOf_totalTechnologies (h : Rebuilt db db') (hs : db.Sound) {d : Domain}
    (hd : d ∈ db'.domains) : ∃ row, statsOf db' d.id = some row ∧
      row.totalTechnologies = (Query.linksOf db' d.id).length := by
  rw [h.domains] at hd
  obtain ⟨id, hrow⟩ := h.statsOf_eq hs.domain_ids hd
  rw [h.linksOf]
  exact ⟨_, hrow, rfl⟩

end Rebuilt

end TechCatalog.Stats
