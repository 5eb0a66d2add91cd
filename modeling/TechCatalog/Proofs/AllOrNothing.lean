import TechCatalog.Proofs.Missing
import TechCatalog.Proofs.RebuiltFigures

/-!
# A rebuild is done as a whole or not at all

The steps of a rebuild are done in turn, and the first that something keeps from being done ends it.
None of them touches what is permanent but the last, the commit. So a task that fails, at whatever
step, leaves the permanent store as it was, and one that returns has made a complete rebuild
permanent.
-/

namespace TechCatalog.Stats

open Store Query

/-- The steps of a rebuild up to the commit, with so many rows to insert. -/
def stepsBeforeCommit (rows : Nat) : List Step :=
  [.readTotals, .readCategories, .clear] ++ (List.range' 1 rows).map .insert

def allSteps (rows : Nat) : List Step := stepsBeforeCommit rows ++ [.commit]

/-- The first thing that keeps one of some steps from being done. -/
def firstObstacle (db : Database) (trouble : Trouble) (steps : List Step) : Option StoreError :=
  steps.findSome? (obstacle? db trouble)

/-- A result, unless there is a reason against it. -/
def okUnless {α : Type} (a : α) : Option StoreError → Except StoreError α
  | some e => .error e
  | none => .ok a

theorem okUnless_eq_error {α : Type} {a : α} {reason : Option StoreError} {e : StoreError} :
    okUnless a reason = .error e ↔ reason = some e := by
  cases reason <;> simp [okUnless]

theorem okUnless_eq_ok {α : Type} {a b : α} {reason : Option StoreError} :
    okUnless a reason = .ok b ↔ reason = none ∧ a = b := by
  cases reason <;> simp [okUnless]

/-! ### The steps in turn -/

/-- The rows of statistics keep no step from being done. -/
theorem obstacle?_withStats (db : Database) (rows : List Store.Stats) (trouble : Trouble)
    (step : Step) :
    obstacle? { db with stats := rows } trouble step = obstacle? db trouble step := by
  cases step <;> rfl

theorem firstObstacle_withStats (db : Database) (rows : List Store.Stats) (trouble : Trouble)
    (steps : List Step) :
    firstObstacle { db with stats := rows } trouble steps = firstObstacle db trouble steps := by
  rw [firstObstacle, firstObstacle, funext (obstacle?_withStats db rows trouble)]

theorem firstObstacle_cons (db : Database) (trouble : Trouble) (step : Step) (steps : List Step) :
    firstObstacle db trouble (step :: steps) =
      (obstacle? db trouble step).or (firstObstacle db trouble steps) := by
  rw [firstObstacle, List.findSome?_cons]
  cases obstacle? db trouble step <;> rfl

theorem firstObstacle_append (db : Database) (trouble : Trouble) (first second : List Step) :
    firstObstacle db trouble (first ++ second) =
      (firstObstacle db trouble first).or (firstObstacle db trouble second) :=
  List.findSome?_append

theorem firstObstacle_eq_none_iff {db : Database} {trouble : Trouble} {steps : List Step} :
    firstObstacle db trouble steps = none ↔ ∀ step ∈ steps, obstacle? db trouble step = none :=
  List.findSome?_eq_none_iff

theorem insertRows_result (trouble : Trouble) (s : Session) (n : Nat)
    (recipes : List (Int → Store.Stats)) :
    (insertRows trouble s n recipes).2 =
      okUnless () (firstObstacle s.working trouble
        ((List.range' n recipes.length).map .insert)) := by
  -- An inserted row changes the store, but not what is in the way of the rows after it.
  induction recipes generalizing s n with
  | nil => rfl
  | cons recipe rest ih =>
    rw [List.length_cons, List.range'_succ, List.map_cons, firstObstacle_cons, insertRows]
    cases hstep : obstacle? s.working trouble (.insert n) with
    | some e => rfl
    | none =>
      simp only [ih, firstObstacle_withStats, Option.none_or]

theorem insertRows_committed (trouble : Trouble) (s : Session) (n : Nat)
    (recipes : List (Int → Store.Stats)) :
    (insertRows trouble s n recipes).1.committed = s.committed := by
  induction recipes generalizing s n with
  | nil => rfl
  | cons recipe rest ih =>
    rw [insertRows]
    split
    · rfl
    · exact ih _ _

/-- A rebuild gives the number of domains unless something is in the way of one of its steps. -/
theorem rebuild_result (trouble : Trouble) (s : Session) :
    (rebuild trouble s).2 = okUnless s.working.domains.length
      (firstObstacle s.working trouble (stepsBeforeCommit s.working.domains.length)) := by
  have hlength : (totals s.working).length = s.working.domains.length := by
    rw [totals, List.length_map, List.length_mergeSort]
  simp only [stepsBeforeCommit, List.cons_append, List.nil_append, firstObstacle_cons]
  rw [rebuild]
  cases obstacle? s.working trouble .readTotals with
  | some e => rfl
  | none =>
    cases obstacle? s.working trouble .readCategories with
    | some e => rfl
    | none =>
      cases obstacle? s.working trouble .clear with
      | some e => rfl
      | none =>
        simp only [insertRows_result, firstObstacle_withStats, List.length_map, hlength,
          Option.none_or]
        cases firstObstacle s.working trouble _ <;> rfl

theorem rebuild_committed (trouble : Trouble) (s : Session) :
    (rebuild trouble s).1.committed = s.committed := by
  rw [rebuild]
  split
  · rfl
  · split
    · rfl
    · split
      · rfl
      · exact insertRows_committed _ _ _ _

/-! ### The task -/

/-- The task gives what the first obstacle in the way of all its steps leaves: everything is taken
back if there is one, and otherwise the rebuild is committed. -/
theorem rebuildTask_eq (trouble : Trouble) (s : Session) :
    rebuildTask trouble s =
      match firstObstacle s.working trouble (allSteps s.working.domains.length) with
      | some e => (s.rollback, { result := .error e, records := [failedRecord e] })
      | none => ((rebuild trouble s).1.commit,
          { result := .ok s.working.domains.length,
            records := [rebuiltRecord s.working.domains.length] }) := by
  have hresult := rebuild_result trouble s
  have hrollback : (rebuild trouble s).1.rollback = s.rollback := by
    rw [Session.rollback, rebuild_committed, Session.rollback]
  -- The contents of the store are nothing to the commit.
  have hcommit : firstObstacle s.working trouble [.commit] =
      obstacle? (rebuild trouble s).1.working trouble .commit := by
    rw [firstObstacle_cons]
    exact Option.or_none
  rw [allSteps, firstObstacle_append, hcommit]
  simp only [rebuildTask, hresult]
  cases firstObstacle s.working trouble (stepsBeforeCommit s.working.domains.length) with
  | some e => simp only [okUnless, hrollback, Option.some_or]
  | none =>
    cases obstacle? (rebuild trouble s).1.working trouble .commit with
    | some e => simp only [okUnless, hrollback, Option.none_or]
    | none => rfl

theorem replaces_of_no_obstacle {trouble : Trouble} {s : Session}
    (hids : (s.working.domains.map (·.id)).Nodup)
    (h : firstObstacle s.working trouble (allSteps s.working.domains.length) = none) :
    Replaces s.working (rebuild trouble s).1.working := by
  rw [allSteps, firstObstacle_append, Option.or_eq_none_iff] at h
  have hresult := rebuild_result trouble s
  rw [h.1] at hresult
  exact (rebuild_ok (Prod.ext rfl hresult)).1.replaces hids

/-- Every table is named in one of the steps, so a missing one is in the way. -/
theorem firstObstacle_of_missing {db : Database} {t : Table} (h : t ∈ db.droppedTables)
    (trouble : Trouble) (rows : Nat) : firstObstacle db trouble (allSteps rows) ≠ none := by
  have hlacks (tables : List Table) (columns : List (String × Column)) (ht : t ∈ tables) :
      db.lacks? tables columns ≠ none := by
    obtain ⟨first, -, -, hfirst⟩ := Database.lacks?_of_misses ⟨t, ht, h⟩ columns
    rw [hfirst]
    exact Option.some_ne_none _
  intro hnone
  have hnamed (step : Step) (hstep : step ∈ allSteps rows) :=
    (Option.or_eq_none_iff.mp (firstObstacle_eq_none_iff.mp hnone step hstep)).2
  have htotals := hnamed .readTotals (by simp [allSteps, stepsBeforeCommit])
  have hcategories := hnamed .readCategories (by simp [allSteps, stepsBeforeCommit])
  have hclear := hnamed .clear (by simp [allSteps, stepsBeforeCommit])
  cases t with
  | domains => exact hlacks _ _ (by simp) htotals
  | links => exact hlacks _ _ (by simp) htotals
  | technologies => exact hlacks _ _ (by simp) hcategories
  | stats => exact hlacks _ _ (by simp) hclear

/-- What a rebuild of a store comes to is a failure that leaves no trace or a complete rebuild. -/
structure AllOrNothing (db : Database) (trouble : Trouble)
    (out : Session × Log.Traced StoreError Nat) : Prop where
  /-- The first thing that is in the way of a step is raised. -/
  raises : ∀ e, out.2.result = .error e ↔
    firstObstacle db trouble (allSteps db.domains.length) = some e
  /-- Only if nothing is in the way of any step, something is returned. -/
  returns : ∀ n, out.2.result = .ok n ↔ n = db.domains.length ∧
    ∀ step ∈ allSteps db.domains.length, obstacle? db trouble step = none
  /-- A failure leaves the permanent store as it was and nothing to be committed. -/
  unchanged : ∀ e, out.2.result = .error e →
    out.1 = Session.start db ∧ out.2.records = [failedRecord e]
  /-- What is returned is the number of domains of a complete rebuild, which is permanent. -/
  complete : ∀ n, out.2.result = .ok n → Replaces db out.1.committed ∧
    out.1 = Session.start out.1.committed ∧ out.2.records = [rebuiltRecord n]
  whole : out.1.committed = db ∨ Replaces db out.1.committed

section

variable {db : Database} {trouble : Trouble}

theorem allOrNothing_of_obstacle {e : StoreError}
    (h : firstObstacle db trouble (allSteps db.domains.length) = some e) :
    AllOrNothing db trouble
      ((Session.start db).rollback, { result := .error e, records := [failedRecord e] }) where
  raises e' := by rw [h, Except.error.injEq, Option.some.injEq]
  returns n := by
    have hsome := mt firstObstacle_eq_none_iff.mpr (h ▸ Option.some_ne_none e)
    exact ⟨fun hn => (nomatch hn), fun hn => absurd hn.2 hsome⟩
  unchanged e' he' := by
    obtain rfl : e = e' := Except.error.inj he'
    exact ⟨rfl, rfl⟩
  complete n hn := by cases hn
  whole := .inl rfl

theorem allOrNothing_of_no_obstacle {s : Session}
    (h : firstObstacle db trouble (allSteps db.domains.length) = none)
    (hreplaces : Replaces db s.working) :
    AllOrNothing db trouble (s.commit,
      { result := .ok db.domains.length, records := [rebuiltRecord db.domains.length] }) where
  raises e := by
    rw [h]
    exact ⟨fun he => (nomatch he), fun he => (nomatch he)⟩
  returns n := by
    rw [Except.ok.injEq, eq_comm, and_iff_left (firstObstacle_eq_none_iff.mp h)]
  unchanged e he := by cases he
  complete n hn := by
    obtain rfl : db.domains.length = n := Except.ok.inj hn
    exact ⟨hreplaces, rfl, rfl⟩
  whole := .inr hreplaces

end

/-- The task of rebuilding the statistics of a store fails without a trace, whatever is in the way
of whichever step, or makes a complete rebuild permanent. Before the commit nothing is permanent,
and where a table is missing the task fails. -/
theorem rebuildTask_all_or_nothing {db : Database} (hids : (db.domains.map (·.id)).Nodup)
    (trouble : Trouble) :
    AllOrNothing db trouble (rebuildTask trouble (Session.start db)) ∧
    (rebuild trouble (Session.start db)).1.committed = db ∧
    ∀ t ∈ db.droppedTables, ∃ e,
      (rebuildTask trouble (Session.start db)).2.result = .error e := by
  have htask := rebuildTask_eq trouble (Session.start db)
  have hworking : (Session.start db).working = db := rfl
  rw [hworking] at htask
  refine ⟨?_, rebuild_committed trouble (Session.start db), fun t ht => ?_⟩
  · cases hobstacle : firstObstacle db trouble (allSteps db.domains.length) with
    | some e =>
      rw [hobstacle] at htask
      rw [htask]
      exact allOrNothing_of_obstacle hobstacle
    | none =>
      rw [hobstacle] at htask
      rw [htask]
      exact allOrNothing_of_no_obstacle hobstacle
        (replaces_of_no_obstacle (s := Session.start db) hids hobstacle)
  · obtain ⟨e, he⟩ := Option.ne_none_iff_exists'.mp
      (firstObstacle_of_missing ht trouble db.domains.length)
    rw [he] at htask
    exact ⟨e, congrArg (·.2.result) htask⟩

/-- There is no room left when a step is reached. -/
def fullAt (step : Step) : Trouble := fun reached =>
  if reached = step then some (.brokenRule "database or disk is full") else none

theorem rebuildTask_all_or_nothing_small :
    (Database.small.domains.map (·.id)).Nodup ∧
    (∀ step ∈ allSteps 2,
      (rebuildTask (fullAt step) (Session.start Database.small)).2.result =
        .error (.brokenRule "database or disk is full") ∧
      (rebuildTask (fullAt step) (Session.start Database.small)).1 =
        Session.start Database.small) ∧
    (rebuildTask noTrouble (Session.start Database.small)).2.result = .ok 2 ∧
    Replaces Database.small
      (rebuildTask noTrouble (Session.start Database.small)).1.committed := by
  have hids : (Database.small.domains.map (·.id)).Nodup := by decide
  have hfull : ∀ step ∈ allSteps 2, firstObstacle Database.small (fullAt step) (allSteps 2) =
      some (.brokenRule "database or disk is full") := by decide
  have hclear : ∀ step ∈ allSteps 2, obstacle? Database.small noTrouble step = none := by decide
  obtain ⟨hdone, -, -⟩ := rebuildTask_all_or_nothing hids noTrouble
  have hreturns := (hdone.returns 2).mpr ⟨rfl, hclear⟩
  refine ⟨hids, fun step hstep => ?_, hreturns, (hdone.complete 2 hreturns).1⟩
  obtain ⟨hfails, -, -⟩ := rebuildTask_all_or_nothing hids (fullAt step)
  have hraises := (hfails.raises _).mpr (hfull step hstep)
  exact ⟨hraises, (hfails.unchanged _ hraises).1⟩

end TechCatalog.Stats
