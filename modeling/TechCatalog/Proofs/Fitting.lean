import TechCatalog.Proofs.Bindings
import TechCatalog.Proofs.Missing
import TechCatalog.Proofs.Pages

/-!
# Which searches bind numbers that do not fit

The store has 64 bits for a number that is bound to a statement. The size of a page and the number
of domains on the pages before always fit. The bounds of a search on numbers of technologies are
bound as they are asked for, however great they are: a search with a bound that does not fit is
assembled, and its first statement comes to nothing.
-/

namespace TechCatalog.Request

open Store

/-- The bounds on numbers of technologies fit 64 bits, and so does the number of technologies that
are required together. -/
structure Filters.CountsFit (f : Filters) : Prop where
  required : ∀ g ∈ f.technologies, fits (valuesOf g.required).eraseDups.length = true
  categories : ∀ gs ∈ f.technologyCategories, ∀ g ∈ gs,
    ∀ n ∈ g.minCount.toList ++ g.maxCount.toList, fits n = true
  counted : ∀ r ∈ f.technologyCountRange, ∀ n ∈ r.min.toList ++ r.max.toList, fits n = true

instance (f : Filters) : Decidable f.CountsFit :=
  decidable_of_iff (_ ∧ _ ∧ _)
    ⟨fun ⟨required, categories, counted⟩ => ⟨required, categories, counted⟩,
      fun ⟨required, categories, counted⟩ => ⟨required, categories, counted⟩⟩

end TechCatalog.Request

namespace TechCatalog.Query

open Store

/-- Whether a value is a number that does not fit. -/
def Value.overflows : Value → Bool
  | .int i => !fits i
  | _ => false

/-- Whether a number is bound that does not fit. -/
def Binding.overflows (b : Binding) : Bool :=
  b.values.any Value.overflows

theorem Binding.overflows_int (n : Int) :
    (Binding.one (.int n)).overflows = false ↔ fits n = true := by
  simp [overflows, values, Value.overflows]

theorem any_overflows_eq (s : Statement) :
    (Statement.values s).any Value.overflows = s.bindings.any fun b => b.2.overflows := by
  rw [Statement.values_eq, List.any_flatMap]
  rfl

theorem any_overflows_eq_false_iff (vs : List Value) :
    vs.any Value.overflows = false ↔ ∀ i, .int i ∈ vs → fits i = true := by
  rw [List.any_eq_false]
  constructor
  · intro h i hi
    simpa [Value.overflows] using h _ hi
  · intro h v hv
    cases v with
    | int i => simp [Value.overflows, h i hv]
    | text s => exact Bool.false_ne_true
    | real x => exact Bool.false_ne_true
    | moment t => exact Bool.false_ne_true

/-- Where the store has all names, numbers are looked at before patterns. -/
theorem obstacle_of_lacks_none {db : Database} {s : Selection} {statement lookups : Statement}
    (hlacks : db.lacks? statement.tables lookups.columns = none) :
    s.obstacle? db statement lookups =
      if statement.values.any Value.overflows then some .overflow
      else if (joinedRows db s.joins).any (fun r => meetsLongPattern db r s.clauses) then
        some (.store .patternTooLong)
      else none := by
  rw [Selection.obstacle?, hlacks]
  rfl

theorem obstacle_eq_overflow_iff {db : Database} {s : Selection} {statement lookups : Statement} :
    s.obstacle? db statement lookups = some .overflow ↔
      db.lacks? statement.tables lookups.columns = none ∧
        statement.values.any Value.overflows = true := by
  cases hlacks : db.lacks? statement.tables lookups.columns with
  | some e => simp [Selection.obstacle?, hlacks]
  | none =>
    rw [obstacle_of_lacks_none hlacks]
    split <;> simp_all

theorem runCount_eq_overflow_iff {db : Database} {s : Selection} :
    s.runCount db = .error .overflow ↔ s.obstacle? db s.countStatement
      (countHead ++ wherePieces s.clauses ++ s.fromPieces) = some .overflow := by
  rw [Selection.runCount]
  split <;> simp_all

theorem run_eq_overflow_iff {db : Database} {q : PageQuery} :
    q.run db = .error .overflow ↔
      q.selection.obstacle? db q.statement q.lookups = some .overflow := by
  rw [PageQuery.run]
  split <;> simp_all

end TechCatalog.Query

namespace TechCatalog.Search

open Request Store Query Service

theorem fits_of_bounds {i : Int} (hlow : 0 ≤ i) (hhigh : i ≤ maxOffset) : fits i = true := by
  have htop : maxOffset = (Decimal.twoPow 63 : Int) - 1 := rfl
  rw [fits, Bool.and_eq_true, decide_eq_true_iff, decide_eq_true_iff]
  omega

/-- The size of a page fits, whatever is asked for. -/
theorem limit_fits (p : Paging) {s : Settings} (hs : s.maxPageSize ≤ maxOffset) :
    fits (PageOrder.of p s).1.limit = true := by
  refine fits_of_bounds (Int.le_trans (by decide) (one_le_limitOf p s)) ?_
  exact Int.max_le.mpr ⟨by decide, Int.le_trans (Int.min_le_right _ _) hs⟩

theorem offset_fits (p : Paging) (s : Settings) : fits (PageOrder.of p s).1.offset = true :=
  fits_of_bounds (offset_bounds p s).1 (offset_bounds p s).2

/-- Among the numbers that a search binds the bounds on numbers of technologies are those that may
not fit. -/
theorem clausesOf_overflows_eq_false_iff (f : Filters) :
    ((clausesOf f).flatMap Clause.bindings).any (fun b => b.2.overflows) = false ↔
      f.CountsFit := by
  have hmany (ss : List String) : (Binding.many (ss.map .text)).overflows = false := by
    simp [Binding.overflows, Binding.values, Value.overflows]
  have hskips : SkipsTexts fun b : String × Binding => b.2.overflows :=
    { one := fun _ _ => rfl
      many := fun _ ss => hmany ss }
  have hreal (x : Float) : (Binding.one (.real x)).overflows = false := rfl
  have hsize (g : ListFilter) : (∀ b ∈ requiredSize g, b.2.overflows = false) ↔
      fits (valuesOf g.required).eraseDups.length = true := by
    rw [requiredSize]
    split
    · rename_i hempty
      rw [List.isEmpty_iff.mp hempty]
      exact iff_of_true (List.forall_mem_nil _) (by decide)
    · rw [List.forall_mem_singleton, Binding.overflows_int]
  rw [List.any_eq_false, ← List.filter_eq_nil_iff, filter_clausesOf hskips,
    List.filter_eq_nil_iff, numberBindings]
  simp only [Bool.not_eq_true, List.forall_mem_append, List.forall_mem_flatMap]
  simp only [hsize, countBounds, rangeBounds, List.forall_mem_map, Option.mem_toList,
    Binding.overflows_int, hreal]
  constructor
  · rintro ⟨⟨⟨required, categories⟩, -⟩, counted⟩
    exact ⟨required, categories, counted⟩
  · rintro ⟨required, categories, counted⟩
    exact ⟨⟨⟨required, categories⟩, fun _ _ _ _ => trivial⟩, counted⟩

/-- The counting statement binds only numbers that fit, just as the page statement does, when the
bounds on numbers of technologies fit. -/
theorem statements_overflow_eq_false_iff (f : Filters) {p : Paging} {s : Settings}
    (hs : s.maxPageSize ≤ maxOffset) :
    (((composePair f (PageOrder.of p s).1).selection.countStatement.values.any
        Value.overflows = false) ↔ f.CountsFit) ∧
    (((composePair f (PageOrder.of p s).1).page.statement.values.any
        Value.overflows = false) ↔ f.CountsFit) := by
  have hown : ([("param", .one (.int (PageOrder.of p s).1.limit)),
      ("param", .one (.int (PageOrder.of p s).1.offset))] : List (String × Binding)).any
        (fun b => b.2.overflows) = false := by
    rw [List.any_cons, List.any_cons, (Binding.overflows_int _).mpr (limit_fits p hs),
      (Binding.overflows_int _).mpr (offset_fits p s)]
    rfl
  constructor
  · rw [any_overflows_eq, Selection.bindings_countStatement]
    exact clausesOf_overflows_eq_false_iff f
  · rw [any_overflows_eq, PageQuery.bindings_statement, List.any_append,
      ← clausesOf_overflows_eq_false_iff f]
    exact Eq.congr_left ((congrArg (_ || ·) hown).trans (Bool.or_false _))

theorem loadTechnologies_ne_overflow {db : Database} {ids : List Int}
    (h : ∀ id ∈ ids, fits id = true) : loadTechnologies db ids ≠ .error .overflow := by
  rw [loadTechnologies, if_pos (List.all_eq_true.mpr h)]
  intro herror
  split at herror
  · cases herror
  · split at herror
    · cases herror
    · cases herror

/-- The profiles of a page never meet a number that does not fit, where the numbers of the domains
fit. -/
theorem profiles_ne_overflow {db : Database} {page : List Domain}
    (h : ∀ d ∈ page, fits d.id = true) : (profiles db page).result ≠ .error (.run .overflow) := by
  intro herror
  by_cases hpage : page = []
  · subst hpage
    cases herror
  cases hload : loadTechnologies db (page.map (·.id)) with
  | error cause =>
    rw [profiles_of_not_loaded hpage hload] at herror
    cases herror
    exact loadTechnologies_ne_overflow (List.forall_mem_map.mpr h) hload
  | ok rows =>
    rw [profiles_of_loaded hpage hload] at herror
    obtain ⟨d, -, hd⟩ := exists_of_mapM_eq_error herror
    rw [profile] at hd
    split at hd
    · cases hd
    · split at hd <;> cases hd

/-- Only an overflow of the store is told as one. -/
theorem eq_overflow_of_phaseError {phase : Phase} {e : EnrichmentError}
    (h : phaseError phase e = .overflow) : e = .run .overflow := by
  cases e with
  | run cause =>
    cases cause with
    | store e => cases h
    | overflow => rfl
  | badProfile faults => cases h
  | tooDeep inObject => cases h

/-- A search meets a number that does not fit in one of its phases. -/
theorem runPair_eq_overflow {db : Database} {q : QueryPair} {requestId : Option String}
    (h : (runPair db q requestId).result = .error .overflow) :
    q.selection.runCount db = .error .overflow ∨ q.page.run db = .error .overflow ∨
      ∃ page, q.page.run db = .ok page ∧ (profiles db page).result = .error (.run .overflow) := by
  simp only [runPair, inPhase, Log.Traced.andThen_result_eq_error,
    Log.Traced.onError_result_eq_error, Log.Traced.onError_result_eq_ok,
    Log.Traced.map_result_eq_error, Log.Traced.statement, mapError_eq_error, mapError_eq_ok] at h
  rcases h with ⟨_, ⟨cause, hcount, rfl⟩, he⟩ | ⟨total, -, hselect⟩
  · cases eq_overflow_of_phaseError he
    exact .inl hcount
  rcases hselect with ⟨_, ⟨cause, hrun, rfl⟩, he⟩ | ⟨page, hrun, henrich⟩
  · cases eq_overflow_of_phaseError he
    exact .inr (.inl hrun)
  rcases henrich with ⟨cause, hprofiles, he⟩ | ⟨_, -, hlog⟩
  · cases eq_overflow_of_phaseError he
    exact .inr (.inr ⟨page, hrun, hprofiles⟩)
  · cases hlog

/-- The domains on a page are domains of the store. -/
theorem mem_domains_of_run {db : Database} {q : PageQuery} {page : List Domain}
    (h : q.run db = .ok page) : ∀ d ∈ page, d ∈ db.domains := by
  intro d hd
  rw [run_ok h, PageQuery.rows, List.mem_map] at hd
  obtain ⟨row, hrow, rfl⟩ := hd
  have hsorted := mem_of_mem_window hrow
  rw [PageQuery.sorted, List.mem_mergeSort, List.mem_eraseDups, List.mem_map] at hsorted
  obtain ⟨r, hr, rfl⟩ := hsorted
  exact (mem_joinedRows.mp (List.mem_filter.mp hr).1).1

/-- A search whose bounds fit meets no number that does not fit, in no phase. -/
theorem execute_ne_overflow {f : Filters} (hf : f.CountsFit) (p : Paging) {s : Settings}
    (hs : s.maxPageSize ≤ maxOffset) {db : Database} (hdb : ∀ d ∈ db.domains, fits d.id = true)
    (requestId : Option String) : (execute db f p s requestId).result ≠ .error .overflow := by
  have hstatements := statements_overflow_eq_false_iff f (p := p) hs
  intro herror
  rw [execute, Log.Traced.andThen_result_eq_error] at herror
  rcases herror with hassemble | ⟨q, hq, hpair⟩
  · obtain ⟨names, -, hnames⟩ := mapError_eq_error.mp hassemble
    cases hnames
  have hq' := assemble_ok (mapError_eq_ok.mp hq)
  subst hq'
  rcases runPair_eq_overflow hpair with hcount | hrun | ⟨page, hrun, hprofiles⟩
  · rw [runCount_eq_overflow_iff, obstacle_eq_overflow_iff, hstatements.1.mpr hf] at hcount
    exact Bool.false_ne_true hcount.2
  · rw [run_eq_overflow_iff, obstacle_eq_overflow_iff, hstatements.2.mpr hf] at hrun
    exact Bool.false_ne_true hrun.2
  · exact profiles_ne_overflow (fun d hd => hdb d (mem_domains_of_run hrun d hd)) hprofiles

/-- A search with a bound that does not fit ends in its first statement, and no failure is logged.
-/
theorem execute_eq_overflow {f : Filters} (hf : ¬ f.CountsFit) {p : Paging} {s : Settings}
    (hs : s.maxPageSize ≤ maxOffset) {q : QueryPair} (hq : (assemble f p s).1 = .ok q)
    {db : Database} (htables : db.droppedTables = []) (hcolumns : db.droppedColumns = [])
    (requestId : Option String) :
    (execute db f p s requestId).result = .error .overflow ∧
      (execute db f p s requestId).records = (assemble f p s).2 ∧
      (execute db f p s requestId).statements = 1 := by
  have hcount : q.selection.runCount db = .error .overflow := by
    rw [assemble_ok hq, runCount_eq_overflow_iff, obstacle_eq_overflow_iff, ← Bool.not_eq_false,
      (statements_overflow_eq_false_iff f hs).1]
    exact ⟨lacks_eq_none htables hcolumns _ _, hf⟩
  -- The error passes through the phase unchanged: no record, and no further statement.
  have hpair : runPair db q requestId = { result := .error .overflow, statements := 1 } := by
    rw [runPair, hcount]
    rfl
  have hexecute : execute db f p s requestId =
      { result := .error .overflow, records := (assemble f p s).2 ++ [], statements := 0 + 1 } := by
    simp only [execute, hq, Except.mapError, Log.Traced.andThen, hpair]
  rw [hexecute]
  exact ⟨rfl, List.append_nil _, rfl⟩

/-- The size of a page and the number of domains before it fit, whatever is asked for. All that the
statements bind fits when the bounds on numbers of technologies do, and then no phase meets a number
that does not fit. Otherwise the counting statement does, and the error is not told as one of its
phase. -/
theorem bound_integers_fit_iff {f : Filters} {p : Paging} {s : Settings}
    (hs : s.maxPageSize ≤ maxOffset) {q : QueryPair} (hq : (assemble f p s).1 = .ok q) :
    (fits (PageOrder.of p s).1.limit = true ∧ fits (PageOrder.of p s).1.offset = true) ∧
    ((∀ i, .int i ∈ q.selection.countStatement.values → fits i = true) ↔ f.CountsFit) ∧
    ((∀ i, .int i ∈ q.page.statement.values → fits i = true) ↔ f.CountsFit) ∧
    (f.CountsFit → ∀ (db : Database) (requestId : Option String),
      (∀ d ∈ db.domains, fits d.id = true) →
      (execute db f p s requestId).result ≠ .error .overflow) ∧
    (¬ f.CountsFit → ∀ (db : Database) (requestId : Option String),
      db.droppedTables = [] → db.droppedColumns = [] →
      (execute db f p s requestId).result = .error .overflow ∧
        (execute db f p s requestId).records = (assemble f p s).2 ∧
        (execute db f p s requestId).statements = 1) := by
  refine ⟨⟨limit_fits p hs, offset_fits p s⟩, ?_, ?_, ?_, ?_⟩
  · rw [← any_overflows_eq_false_iff, assemble_ok hq]
    exact (statements_overflow_eq_false_iff f hs).1
  · rw [← any_overflows_eq_false_iff, assemble_ok hq]
    exact (statements_overflow_eq_false_iff f hs).2
  · intro hf db requestId hdb
    exact execute_ne_overflow hf p hs hdb requestId
  · intro hf db requestId htables hcolumns
    exact execute_eq_overflow hf hs hq htables hcolumns requestId

/-- A page far behind the last. -/
def deepPage : Paging where
  limit := some 7
  page := 10000000000000000000000000000000000000000

/-- The statements of this page of a search. -/
def deepPair : QueryPair := composePair mixedFilters (PageOrder.of deepPage {}).1

theorem bound_integers_fit_deep :
    (assemble mixedFilters deepPage {}).1 = .ok deepPair ∧ mixedFilters.CountsFit ∧
    fits (PageOrder.of deepPage {}).1.offset = true ∧
    (∀ i, .int i ∈ deepPair.page.statement.values → fits i = true) ∧
    (execute Database.small mixedFilters deepPage {} none).result ≠ .error .overflow := by
  have hq : (assemble mixedFilters deepPage {}).1 = .ok deepPair := rfl
  have hfit : mixedFilters.CountsFit := by decide
  obtain ⟨⟨-, hoffset⟩, -, hpage, hrun, -⟩ :=
    bound_integers_fit_iff (s := {}) (by decide) hq
  exact ⟨hq, hfit, hoffset, hpage.mpr hfit, hrun hfit Database.small none (by decide)⟩

/-- A search for domains with at least as many technologies as do not fit 64 bits. -/
def wideSearch : Filters where
  technologyCountRange := some { min := some 9223372036854775808 }

/-- A request may name a number that does not fit. It is bound all the same, and the search ends in
an error that is not told as one of its phase. -/
theorem wide_count_overflows :
    Filters.read .value
        (.obj [("technologyCountRange", .obj [("min", .int 9223372036854775808)])]) =
      .accept wideSearch ∧
    (assemble wideSearch {} {}).1 = .ok (composePair wideSearch (PageOrder.of {} {}).1) ∧
    .int 9223372036854775808 ∈
      (composePair wideSearch (PageOrder.of {} {}).1).selection.countStatement.values ∧
    fits 9223372036854775808 = false ∧
    (execute Database.small wideSearch {} {} none).result = .error .overflow ∧
    (execute Database.small wideSearch {} {} none).records = [] :=
  ⟨rfl, rfl, by decide, by decide, rfl, rfl⟩

end TechCatalog.Search
