import TechCatalog.Proofs.Finding

/-!
# Searches whose sort column is missing or unknown

A search that names no sort column, or one that results cannot be sorted by, is sorted by the name
of the domain. A search depends on what it is sorted by through the settled order alone, so it runs
as if this column had been named. The direction is reset only where a name was given: a search that
names no column keeps the direction it asks for.
-/

namespace TechCatalog.Log.Traced

variable {ε α : Type} (records : List Record) (x : Traced ε α)

/-- Work of which some records were logged before. -/
def after : Traced ε α := { x with records := records ++ x.records }

@[simp]
theorem after_result : (x.after records).result = x.result := rfl

@[simp]
theorem after_statements : (x.after records).statements = x.statements := rfl

@[simp]
theorem after_records : (x.after records).records = records ++ x.records := rfl

@[simp]
theorem after_nil : x.after [] = x := rfl

end TechCatalog.Log.Traced

namespace TechCatalog.Search

open Request Store Query Profile Service

/-- The names that results can be sorted by. -/
def sortableNames : List String := SortKey.all.map SortKey.name

example : sortableNames =
    ["d.domain", "d.company_name", "d.category", "d.country", "d.created_at", "d.updated_at",
      "ds.total_technologies", "ds.total_spend", "domain", "company_name", "category", "country",
      "created_at", "updated_at", "total_technologies", "total_spend"] := by
  decide

theorem ofName?_eq_none {name : String} (h : name ∉ sortableNames) :
    SortKey.ofName? name = none := by
  apply List.find?_eq_none.mpr
  intro k hk hname
  exact h (List.mem_map.mpr ⟨k, hk, eq_of_beq hname⟩)

theorem exists_ofName?_eq_some {name : String} (h : name ∈ sortableNames) :
    ∃ k, SortKey.ofName? name = some k ∧ k.name = name := by
  obtain ⟨k, hk, hname⟩ := List.mem_map.mp h
  have hfound : (SortKey.ofName? name).isSome := by
    rw [SortKey.ofName?, List.find?_isSome]
    exact ⟨k, hk, beq_iff_eq.mpr hname⟩
  obtain ⟨found, hfound⟩ := Option.isSome_iff_exists.mp hfound
  have hsame := List.find?_some hfound
  exact ⟨found, hfound, eq_of_beq hsame⟩

section

variable {p : Paging} {name : String}

theorem sortOf_of_unknown (hname : p.sortBy = some name) (h : name ∉ sortableNames) :
    sortOf p = (.default, false, [unsortableRecord name]) := by
  simp only [sortOf, hname, ofName?_eq_none h]

theorem sortOf_of_listed (hname : p.sortBy = some name) (h : name ∈ sortableNames) :
    ∃ k, sortOf p = (k, p.sortOrder == .descending, []) ∧ k.name = name := by
  obtain ⟨k, hk, hkname⟩ := exists_ofName?_eq_some h
  refine ⟨k, ?_, hkname⟩
  simp only [sortOf, hname, hk]

theorem sortOf_of_none (hname : p.sortBy = none) :
    sortOf p = (.default, p.sortOrder == .descending, []) := by
  simp only [sortOf, hname]

end

section

variable {p p' : Paging} {s s' : Settings}

/-- The statements of a search depend on the settled order only. -/
theorem assemble_congr (h : (PageOrder.of p s).1 = (PageOrder.of p' s').1) (f : Filters) :
    (assemble f p s).1 = (assemble f p' s').1 := by
  rw [assemble_eq, assemble_eq, h]

/-- A search that settles on the order of another runs as the other does. What it logs about its own
order comes first. -/
theorem execute_congr (h : (PageOrder.of p s).1 = (PageOrder.of p' s').1)
    (hquiet : (sortOf p').2.2 = []) (db : Database) (f : Filters) (requestId : Option String) :
    execute db f p s requestId = (execute db f p' s' requestId).after (sortOf p).2.2 := by
  have hrecords : (assemble f p' s').2 = [] := (assemble_records f p' s').trans hquiet
  have hpair := assemble_congr h f
  simp only [execute]
  rw [hpair, hrecords, assemble_records]
  cases (assemble f p' s').1 with
  | error names => simp [Except.mapError, Log.Traced.andThen, Log.Traced.after]
  | ok q => simp [Except.mapError, Log.Traced.andThen, Log.Traced.after]

end

/-- The request sorted by the name of the domain, ascending. -/
def byDomain (p : Paging) : Paging :=
  { p with sortBy := some "d.domain", sortOrder := .ascending }

theorem sortOf_domain {p : Paging} (hname : p.sortBy = some "d.domain") :
    sortOf p = (.default, p.sortOrder == .descending, []) := by
  have hkey : SortKey.ofName? "d.domain" = some .default := by decide
  simp only [sortOf, hname, hkey]

/-- A search that settles on the default key runs as if it had named this column. -/
theorem execute_default {p : Paging} (sortOrder : SortOrder) (hkey : (sortOf p).1 = .default)
    (hdirection : (sortOf p).2.1 = (sortOrder == .descending)) (db : Database) (f : Filters)
    (s : Settings) (requestId : Option String) :
    execute db f p s requestId =
      (execute db f { p with sortBy := some "d.domain", sortOrder := sortOrder } s requestId).after
        (sortOf p).2.2 := by
  have hdomain : sortOf { p with sortBy := some "d.domain", sortOrder := sortOrder } =
      (.default, sortOrder == .descending, []) := sortOf_domain rfl
  -- The size and the number of the page do not depend on the sort column.
  have hown : (PageOrder.of p s).1 =
      ⟨.default, sortOrder == .descending, limitOf p s, pageOf p (limitOf p s)⟩ := by
    rw [← hkey, ← hdirection]
    rfl
  apply execute_congr
  · rw [hown, PageOrder.of, hdomain]
    rfl
  · rw [hdomain]

/-- A name that results cannot be sorted by stands for the name of the domain, ascending. No name
stands for the name of the domain in the direction that is asked for. Every other name is kept, and
so is its direction. -/
theorem sort_fallback (db : Database) (f : Filters) (p : Paging) (s : Settings)
    (requestId : Option String) :
    (∀ name, p.sortBy = some name → name ∉ sortableNames →
      (execute db f p s requestId).result = (execute db f (byDomain p) s requestId).result ∧
      (execute db f p s requestId).statements =
        (execute db f (byDomain p) s requestId).statements ∧
      (execute db f p s requestId).records =
        unsortableRecord name :: (execute db f (byDomain p) s requestId).records) ∧
    (p.sortBy = none →
      execute db f p s requestId =
        execute db f { p with sortBy := some "d.domain" } s requestId) ∧
    ∀ name, p.sortBy = some name → name ∈ sortableNames →
      (PageOrder.of p s).1.key.name = name ∧
      (PageOrder.of p s).1.descending = (p.sortOrder == .descending) ∧
      (PageOrder.of p s).2 = [] := by
  refine ⟨fun name hname hunknown => ?_, fun hnone => ?_, fun name hname hlisted => ?_⟩
  · have hsort := sortOf_of_unknown hname hunknown
    have hrun : execute db f p s requestId = (execute db f (byDomain p) s requestId).after _ :=
      execute_default .ascending (congrArg (·.1) hsort) (congrArg (·.2.1) hsort) db f s requestId
    rw [hrun, hsort]
    simp
  · have hsort := sortOf_of_none hnone
    have hrun := execute_default p.sortOrder (congrArg (·.1) hsort) (congrArg (·.2.1) hsort)
      db f s requestId
    rw [hrun, hsort]
    simp
  · obtain ⟨k, hsort, hkname⟩ := sortOf_of_listed hname hlisted
    have horder : PageOrder.of p s =
        (⟨k, p.sortOrder == .descending, limitOf p s, pageOf p (limitOf p s)⟩, []) := by
      simp only [PageOrder.of, hsort]
    rw [horder]
    exact ⟨hkname, rfl, rfl⟩

/-- A search for the first page, the last names first, that names no sort column. -/
def lastFirst : Paging where
  sortOrder := .descending

theorem sort_fallback_small :
    "d.id; DROP TABLE domains" ∉ sortableNames ∧ "total_spend" ∈ sortableNames ∧
    (execute Database.small {} { lastFirst with sortBy := some "d.id; DROP TABLE domains" } {}
        none).result =
      (execute Database.small {} (byDomain lastFirst) {} none).result ∧
    execute Database.small {} lastFirst {} none =
      execute Database.small {} { lastFirst with sortBy := some "d.domain" } {} none ∧
    (PageOrder.of { lastFirst with sortBy := some "total_spend" } {}).1.descending = true := by
  have hunknown : "d.id; DROP TABLE domains" ∉ sortableNames := by decide
  have hlisted : "total_spend" ∈ sortableNames := by decide
  obtain ⟨hfallback, -, -⟩ := sort_fallback Database.small {}
    { lastFirst with sortBy := some "d.id; DROP TABLE domains" } {} none
  obtain ⟨-, hnone, -⟩ := sort_fallback Database.small {} lastFirst {} none
  obtain ⟨-, -, hkept⟩ := sort_fallback Database.small {}
    { lastFirst with sortBy := some "total_spend" } {} none
  exact ⟨hunknown, hlisted, (hfallback _ rfl hunknown).1, hnone rfl, (hkept _ rfl hlisted).2.1⟩

theorem listingOf_lastFirst :
    listingOf Database.small {} lastFirst = Database.small.domains.reverse := by
  have hperm : Database.small.domains.reverse.Perm
      (Database.small.domains.filter fun d => decide (Matches Database.small {} d)) := by
    rw [small_domains_match]
    exact List.reverse_perm _
  rw [listingOf, ← mergeSort_eq_listing Database.small_sound hperm]
  exact List.mergeSort_of_pairwise (by decide)

theorem listingOf_byDomain :
    listingOf Database.small {} (byDomain lastFirst) = Database.small.domains := by
  rw [listingOf, listing, small_domains_match]
  exact List.mergeSort_of_pairwise (by decide)

/-- A search that names no sort column keeps the direction it asks for. -/
theorem missing_sort_keeps_direction :
    ∃ kept reset,
      (execute Database.small {} lastFirst {} none).result = .ok kept ∧
      (execute Database.small {} (byDomain lastFirst) {} none).result = .ok reset ∧
      kept.domains.map (·.domain) = ["beta.com", "alpha.com"] ∧
      reset.domains.map (·.domain) = ["alpha.com", "beta.com"] := by
  have hkept := small_whole.profiles
    (fun d (hd : d ∈ Database.small.domains.reverse) => List.mem_reverse.mp hd) (by decide)
  have hreset := small_whole.profiles (fun d (hd : d ∈ Database.small.domains) => hd) (by decide)
  have hlast := execute_completes (f := {}) (p := lastFirst) (s := {}) Database.small_sound none
    rfl rfl rfl (by rw [listingOf_lastFirst]; exact hkept)
  have hfirst := execute_completes (f := {}) (p := byDomain lastFirst) (s := {})
    Database.small_sound none rfl rfl rfl (by rw [listingOf_byDomain]; exact hreset)
  exact ⟨_, _, hlast, hfirst, rfl, rfl⟩

end TechCatalog.Search
