import TechCatalog.Proofs.Guard
import TechCatalog.Proofs.NamedTables
import TechCatalog.Proofs.OwnLinks

/-!
# In which phase a search fails

A search names different tables in its phases: counting and selecting need the planned tables, and
enriching needs the links and the technologies, if there is a domain on the page. Where nothing but
tables is missing, these decide whether the search fails, in which phase, and what is logged. As
counting and selecting need the same tables, a missing table is never found while selecting.
-/

namespace TechCatalog.Search

open Request Store Query Profile Service

/-- The part of the listing that a page shows. -/
def selectedPage (db : Database) (f : Filters) (p : Paging) (s : Settings) : List Domain :=
  ((listingOf db f p).drop (PageOrder.of p s).1.offset.toNat).take (limitOf p s).toNat

/-- The result of a search that completes: the number of domains that match, and a profile for each
domain on the page, which shows its own columns and links. -/
structure FullResult (db : Database) (f : Filters) (p : Paging) (s : Settings)
    (result : ResultPage) : Prop where
  total : result.totalCount = (db.domains.countP fun d => decide (Matches db f d) : Nat)
  domains : List.Forall₂ (fun d q => ∃ pairs, ShowsOwn db d pairs q) (selectedPage db f p s)
    result.domains

/-- A bound on how many parts of a condition stand inside each other: every test may be joined to
those before it and negated, and has a few parts of its own. -/
def depthBound (cs : List Clause) : Nat :=
  2 * (cs.flatMap Clause.tests).length + 10

/-- Nothing but missing tables keeps a search from completing: all columns exist, the numbers of
domains fit, the statements bind neither NaN nor a number that does not fit, they meet no pattern
that is too long, and the stored texts on the page can be shown. No statement is larger than the
store takes: neither of the two for the search, nor the one for the technologies of the page. -/
structure OnlyTablesMissing (db : Database) (f : Filters) (p : Paging) (s : Settings) : Prop where
  columns : db.droppedColumns = []
  ids : ∀ d ∈ db.domains, fits d.id = true
  noNaN : f.NaNFree
  numbers : ∀ i, .int i ∈ (composePair f (PageOrder.of p s).1).page.statement.values →
    fits i = true
  patterns : ∀ r ∈ joinedRows db (composePair f (PageOrder.of p s).1).selection.joins,
    meetsLongPattern db r (clausesOf f) = false
  texts : ∀ d ∈ selectedPage db f p s, Showable db.platform.reader d
  /-- The page statement binds all that the counting statement binds, and its own two numbers. -/
  values : (composePair f (PageOrder.of p s).1).page.statement.values.length ≤
    db.platform.variableLimit
  depth : depthBound (clausesOf f) ≤ db.platform.depthLimit
  page : (selectedPage db f p s).length ≤ db.platform.variableLimit

/-- What was logged about how a search went. -/
def outcomeRecords (records : List Log.Record) : List Log.Record :=
  records.filter fun r => r.logger == executorName

/-- A test without a pattern that is too long does not meet one. -/
theorem meetsLongPattern_eq_false (db : Database) (r : JoinedRow) {cs : List Clause}
    (h : ∀ c ∈ cs, c.tests.any Test.tooLong = false) : meetsLongPattern db r cs = false := by
  induction cs with
  | nil => rfl
  | cons c rest ih =>
    rw [List.forall_mem_cons] at h
    rw [meetsLongPattern, h.1, ih h.2, Bool.and_false, Bool.or_false]

/-- A statement that binds what fits and meets no long pattern fails only for what the store
lacks. -/
theorem obstacle?_eq {db : Database} {s : Selection} {statement : Statement} (lookups : Statement)
    (hvalues : statement.values.any Value.overflows = false)
    (hpatterns : ∀ r ∈ joinedRows db s.joins, meetsLongPattern db r s.clauses = false) :
    s.obstacle? db statement lookups =
      (db.lacks? statement.tables lookups.columns).map .store := by
  have hlong : (joinedRows db s.joins).any (fun r => meetsLongPattern db r s.clauses) = false :=
    List.any_eq_false.mpr fun r hr => Bool.not_eq_true _ ▸ hpatterns r hr
  cases hlacks : db.lacks? statement.tables lookups.columns with
  | some e => rw [Selection.obstacle?, hlacks, Option.map_some]
  | none =>
    rw [obstacle_of_lacks_none hlacks, hvalues, hlong]
    rfl

/-- The profiles of the page are not made where a table for their technologies is missing. -/
theorem profiles_fail {db : Database} {page : List Domain} (hpage : page ≠ [])
    (hsize : page.length ≤ db.platform.variableLimit)
    (hmisses : db.Misses [.links, .technologies]) :
    ∃ cause, profiles db page =
      { result := .error (.run (.store cause)), statements := 1 } := by
  obtain ⟨t, -, -, hlacks⟩ := Database.lacks?_of_misses hmisses
    (qualifiedColumns ownedColumns)
  refine ⟨.noTable t.name, ?_⟩
  refine profiles_of_not_loaded hpage ?_
  rw [loadTechnologies, List.length_map, if_neg (Nat.not_lt.mpr hsize), hlacks]

namespace OnlyTablesMissing

variable {db : Database} {f : Filters} {p : Paging} {s : Settings}

theorem page_values (honly : OnlyTablesMissing db f p s) :
    (composePair f (PageOrder.of p s).1).page.statement.values.any Value.overflows = false :=
  (any_overflows_eq_false_iff _).mpr honly.numbers

/-- What the counting statement binds, the page statement binds too. -/
theorem count_values (honly : OnlyTablesMissing db f p s) :
    (composePair f (PageOrder.of p s).1).selection.countStatement.values.any Value.overflows =
      false := by
  have hpage := honly.page_values
  rw [any_overflows_eq, PageQuery.bindings_statement, List.any_append,
    Bool.or_eq_false_iff] at hpage
  rw [any_overflows_eq, Selection.bindings_countStatement]
  exact hpage.1

theorem assembled (honly : OnlyTablesMissing db f p s) :
    (assemble f p s).1 = .ok (composePair f (PageOrder.of p s).1) := by
  rw [assemble_eq, if_pos honly.noNaN]

/-- Counting fails where a planned table is missing. -/
theorem count_fails (honly : OnlyTablesMissing db f p s)
    (hmisses : db.Misses (plannedTables f (PageOrder.of p s).1.needsStats)) :
    ∃ cause, (composePair f (PageOrder.of p s).1).selection.runCount db =
      .error (.store cause) := by
  rw [← Database.misses_congr fun t => mem_tables_composePair (f := f) (PageOrder.of p s).1,
    ← tables_countStatement] at hmisses
  obtain ⟨t, -, -, hlacks⟩ := Database.lacks?_of_misses hmisses _
  refine ⟨.noTable t.name, ?_⟩
  rw [Selection.runCount, obstacle?_eq _ honly.count_values honly.patterns, hlacks]
  rfl

/-- Counting and selecting succeed where no planned table is missing. -/
theorem statements_run (h : db.Sound) (honly : OnlyTablesMissing db f p s)
    (hmisses : ¬ db.Misses (plannedTables f (PageOrder.of p s).1.needsStats)) :
    (composePair f (PageOrder.of p s).1).selection.runCount db =
      .ok (db.domains.countP fun d => decide (Matches db f d)) ∧
    (composePair f (PageOrder.of p s).1).page.run db = .ok (selectedPage db f p s) := by
  rw [← Database.misses_congr fun t => mem_tables_composePair (f := f) (PageOrder.of p s).1]
    at hmisses
  constructor
  · rw [← tables_countStatement] at hmisses
    rw [Selection.runCount, obstacle?_eq _ honly.count_values honly.patterns,
      Database.lacks?_of_not_misses honly.columns hmisses, ← count_eq_countP h]
    rfl
  · have hpage : (composePair f (PageOrder.of p s).1).page.statement.tables =
        (composePair f (PageOrder.of p s).1).selection.tables := tables_pageStatement _
    rw [← hpage] at hmisses
    have hobstacle : (composePair f (PageOrder.of p s).1).page.selection.obstacle? db
        (composePair f (PageOrder.of p s).1).page.statement
        (composePair f (PageOrder.of p s).1).page.lookups = none := by
      refine (obstacle?_eq _ honly.page_values honly.patterns).trans ?_
      rw [Database.lacks?_of_not_misses honly.columns hmisses]
      rfl
    have hrows := rows_eq_listing h f (o := (PageOrder.of p s).1) (sortOf_key p)
      (one_le_limitOf p s)
    rw [PageQuery.run, hobstacle]
    exact congrArg Except.ok hrows

/-- The profiles of the page are made where there are none to make, or no table for their
technologies is missing. What is logged meanwhile is not about the search as a whole. -/
theorem profiles_made (h : db.Sound) (honly : OnlyTablesMissing db f p s)
    (hmade : selectedPage db f p s = [] ∨ ¬ db.Misses [.links, .technologies]) :
    ∃ shown, (profiles db (selectedPage db f p s)).result = .ok shown ∧
      List.Forall₂ (fun d q => ∃ pairs, ShowsOwn db d pairs q) (selectedPage db f p s) shown ∧
      outcomeRecords (profiles db (selectedPage db f p s)).records = [] := by
  by_cases hpage : selectedPage db f p s = []
  · rw [hpage]
    exact ⟨[], rfl, .nil, rfl⟩
  · have hmisses := hmade.resolve_left hpage
    have hlacks := Database.lacks?_of_not_misses honly.columns hmisses
      (qualifiedColumns ownedColumns)
    have hids : ∀ d ∈ selectedPage db f p s, fits d.id = true := fun d hd =>
      honly.ids d (mem_listing.mp (List.mem_of_mem_drop (List.mem_of_mem_take hd))).1
    have hshown := mapM_profile (fun d => technologiesIn
      (ownedRows db ((selectedPage db f p s).map (·.id))) d.id) honly.texts
    rw [profiles_eq db hlacks hids honly.page hpage]
    exact ⟨_, hshown, showsOwn_of_mapM h hshown, rfl⟩

end OnlyTablesMissing

section

variable {db : Database} {q : QueryPair} (requestId : Option String)

/-- A search whose counting statement is rejected ends there. -/
theorem runPair_count_fails {cause : StoreError}
    (hcount : q.selection.runCount db = .error (.store cause)) :
    (runPair db q requestId).result = .error (.failed .count cause) ∧
      (runPair db q requestId).records = [failedRecord .count cause requestId] := by
  rw [runPair, hcount]
  exact ⟨rfl, rfl⟩

theorem runPair_enrich_fails {total : Nat} (hcount : q.selection.runCount db = .ok total)
    {page : List Domain} (hpage : q.page.run db = .ok page) {cause : StoreError}
    (hprofiles : profiles db page = { result := .error (.run (.store cause)), statements := 1 }) :
    (runPair db q requestId).result = .error (.failed .enrich cause) ∧
      (runPair db q requestId).records = [failedRecord .enrich cause requestId] := by
  rw [runPair, hcount, hpage]
  simp only [inPhase, Log.Traced.statement, Log.Traced.andThen, Log.Traced.onError,
    Except.mapError, hprofiles]
  exact ⟨rfl, rfl⟩

theorem runPair_completes {total : Nat} (hcount : q.selection.runCount db = .ok total)
    {page : List Domain} (hpage : q.page.run db = .ok page) {shown : List DomainProfile}
    (hshown : (profiles db page).result = .ok shown) :
    (runPair db q requestId).result = .ok { domains := shown, totalCount := total } ∧
      (runPair db q requestId).records =
        (profiles db page).records ++ [completedRecord requestId total shown.length] := by
  rw [runPair, hcount, hpage]
  simp only [inPhase, Log.Traced.statement, Log.Traced.andThen, Log.Traced.onError,
    Except.mapError, hshown, Log.Traced.map, Log.Traced.log]
  exact ⟨rfl, rfl⟩

end

/-- Settling the order of a search logs nothing about how the search went. -/
theorem outcomeRecords_assemble (f : Filters) (p : Paging) (s : Settings) :
    outcomeRecords (assemble f p s).2 = [] := by
  rw [assemble_records, sortOf]
  split
  · rfl
  · split <;> rfl

theorem execute_eq_runPair (db : Database) {f : Filters} {p : Paging} {s : Settings}
    {q : QueryPair} (hq : (assemble f p s).1 = .ok q) (requestId : Option String) :
    (execute db f p s requestId).result = (runPair db q requestId).result ∧
      outcomeRecords (execute db f p s requestId).records =
        outcomeRecords (runPair db q requestId).records := by
  have hstart := outcomeRecords_assemble f p s
  rw [outcomeRecords] at hstart
  simp only [execute, hq, Except.mapError, Log.Traced.andThen, outcomeRecords, List.filter_append,
    hstart, List.nil_append, and_self]

section

variable {db : Database} {f : Filters} {p : Paging} {s : Settings}

/-- Where nothing but tables is missing, a search fails in counting, fails in enriching or
completes. -/
theorem execute_outcome (h : db.Sound) (honly : OnlyTablesMissing db f p s)
    (requestId : Option String) :
    (db.Misses (plannedTables f (PageOrder.of p s).1.needsStats) ∧
      ∃ cause, (execute db f p s requestId).result = .error (.failed .count cause) ∧
        outcomeRecords (execute db f p s requestId).records =
          [failedRecord .count cause requestId]) ∨
    (¬ db.Misses (plannedTables f (PageOrder.of p s).1.needsStats) ∧
      (selectedPage db f p s ≠ [] ∧ db.Misses [.links, .technologies]) ∧
      ∃ cause, (execute db f p s requestId).result = .error (.failed .enrich cause) ∧
        outcomeRecords (execute db f p s requestId).records =
          [failedRecord .enrich cause requestId]) ∨
    (¬ db.Misses (plannedTables f (PageOrder.of p s).1.needsStats) ∧
      ¬ (selectedPage db f p s ≠ [] ∧ db.Misses [.links, .technologies]) ∧
      ∃ result, (execute db f p s requestId).result = .ok result ∧ FullResult db f p s result ∧
        outcomeRecords (execute db f p s requestId).records =
          [completedRecord requestId (db.domains.countP fun d => decide (Matches db f d))
            result.domains.length]) := by
  obtain ⟨hresult, hrecords⟩ := execute_eq_runPair db honly.assembled requestId
  rw [hresult, hrecords]
  -- The phases are gone through in order: each is reached only when those before it succeed.
  by_cases hplanned : db.Misses (plannedTables f (PageOrder.of p s).1.needsStats)
  · obtain ⟨cause, hcount⟩ := honly.count_fails hplanned
    obtain ⟨hfails, hlogged⟩ := runPair_count_fails requestId hcount
    refine .inl ⟨hplanned, cause, hfails, ?_⟩
    rw [hlogged]
    rfl
  obtain ⟨hcount, hpage⟩ := honly.statements_run h hplanned
  by_cases hmisses : selectedPage db f p s ≠ [] ∧ db.Misses [.links, .technologies]
  · obtain ⟨cause, hprofiles⟩ := profiles_fail hmisses.1 honly.page hmisses.2
    obtain ⟨hfails, hlogged⟩ := runPair_enrich_fails requestId hcount hpage hprofiles
    refine .inr (.inl ⟨hplanned, hmisses, cause, hfails, ?_⟩)
    rw [hlogged]
    rfl
  · have hmade : selectedPage db f p s = [] ∨ ¬ db.Misses [.links, .technologies] := by
      rw [← not_and_or.trans (or_congr_left not_not)]
      exact hmisses
    obtain ⟨shown, hshown, hown, hquiet⟩ := honly.profiles_made h hmade
    obtain ⟨hcompletes, hlogged⟩ := runPair_completes requestId hcount hpage hshown
    refine .inr (.inr ⟨hplanned, hmisses, _, hcompletes, ⟨rfl, hown⟩, ?_⟩)
    rw [outcomeRecords] at hquiet
    rw [hlogged, outcomeRecords, List.filter_append, hquiet]
    rfl

end

/-- A store without technologies and statistics. -/
def partlyDropped : Database :=
  { Database.small with droppedTables := [.technologies, .stats] }

/-- A search for the domains that use a technology. -/
def reactSearch : Filters where
  technologies := some { included := some ["React"] }

theorem selectedPage_react :
    selectedPage partlyDropped reactSearch {} {} = Database.small.domains.take 1 := by
  have hfound : partlyDropped.domains.filter
      (fun d => decide (Matches partlyDropped reactSearch d)) = Database.small.domains.take 1 := by
    decide
  have hlisting : listingOf partlyDropped reactSearch {} = Database.small.domains.take 1 := by
    rw [listingOf, listing, hfound]
    exact List.mergeSort_singleton _
  rw [selectedPage, hlisting]
  rfl

theorem react_onlyTablesMissing : OnlyTablesMissing partlyDropped reactSearch {} {} where
  columns := rfl
  ids := by decide
  noNaN := by decide
  numbers := (any_overflows_eq_false_iff _).mp (by decide)
  patterns := fun r _ =>
    meetsLongPattern_eq_false partlyDropped r (List.forall_mem_singleton.mpr rfl)
  texts := by
    rw [selectedPage_react]
    decide
  values := by decide
  depth := by decide
  page := by
    rw [selectedPage_react]
    decide

end TechCatalog.Search
