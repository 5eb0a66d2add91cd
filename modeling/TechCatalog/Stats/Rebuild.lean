import TechCatalog.Log.Traced
import TechCatalog.Profile.Technology
import TechCatalog.Query.Meaning
import TechCatalog.Store.Session

/-!
# Rebuilding the statistics

The statistics of the domains are kept in a table of their own, so that searches can filter and sort
by them. `rebuild` computes them anew from the links: it reads the totals of every domain and the
number of its links per category, clears the table, and inserts one row per domain. The step at
which something goes wrong ends the rebuild; `rebuildTask` then takes back everything, and otherwise
commits.
-/

namespace TechCatalog.Stats

open Store Query

/-- The totals of a domain. -/
structure Totals where
  /-- The number of the domain. -/
  domainId : Int
  /-- The number of its links. -/
  technologies : Nat
  /-- What is spent on all of its links. -/
  spend : Float
  deriving DecidableEq, Repr

/-- What is spent on some links. There is no sum where no amount is known or where the sum is no
number, and what there is not counts as zero. -/
def spendOn (p : Platform) (links : List Link) : Float :=
  if links.all (·.spend.isNone) || Decimal.isNaN (p.sum links) then Float.ofBits 0 else p.sum links

/-- The totals of a domain. -/
def totalsOf (db : Database) (d : Domain) : Totals where
  domainId := d.id
  technologies := (linksOf db d.id).length
  spend := spendOn db.platform (linksOf db d.id)

/-- The totals of all domains, in the order of their numbers. -/
def totals (db : Database) : List Totals :=
  (db.domains.mergeSort fun a b => a.id ≤ b.id).map (totalsOf db)

/-- The categories of the technologies that a domain is linked to, one for each link; a technology
without a category or with an empty one has none. -/
def categoriesOf (db : Database) (domainId : Int) : List String :=
  (linksOf db domainId).filterMap fun l =>
    match (technologyOf db l).bind (·.category) with
    | none | some "" => none
    | some c => some c

/-- The number of links of a domain per category, categories in alphabetical order. -/
def histogram (db : Database) (domainId : Int) : List (String × Int) :=
  Profile.countEach ((categoriesOf db domainId).mergeSort fun a b => compare a b != .gt)

/-- The row of statistics of a domain. -/
def rowOf (db : Database) (t : Totals) (id : Int) : Stats where
  id := id
  domainId := t.domainId
  totalTechnologies := t.technologies
  technologiesByCategory := .obj ((histogram db t.domainId).map fun c => (c.1, .int c.2))
  totalSpend := t.spend

/-- The steps of a rebuild. -/
inductive Step where
  | readTotals
  /-- Reading the numbers per category. -/
  | readCategories
  /-- Clearing the table. -/
  | clear
  /-- Inserting a row, numbered from 1. -/
  | insert (row : Nat)
  /-- Making the changes permanent. -/
  | commit
  deriving DecidableEq, Repr

/-- What goes wrong at the steps of a rebuild apart from the contents of the store. -/
abbrev Trouble := Step → Option StoreError

/-- Nothing goes wrong. -/
def noTrouble : Trouble := fun _ => none

/-- The columns from which the totals are read, in the order in which they are looked up. -/
def totalsColumns : List Column :=
  [.ofDomain .id, .ofLink .id, .ofLink .spend, .ofLink .domainId]

/-- The columns from which the numbers per category are read, in the order in which they are looked
up. -/
def histogramColumns : List Column :=
  [.ofLink .domainId, .ofTechnology .category, .ofLink .technologyId, .ofTechnology .id]

/-- What keeps a step from being done, if anything does. -/
def obstacle? (db : Database) (trouble : Trouble) (step : Step) : Option StoreError :=
  (trouble step).or <|
    match step with
    | .readTotals => db.lacks? [.domains, .links] (qualifiedColumns totalsColumns)
    | .readCategories => db.lacks? [.links, .technologies] (qualifiedColumns histogramColumns)
    | .clear => db.lacks? [.stats] []
    | .insert _ => db.rowObstacle? .stats Table.stats.columns
    | .commit => none

/-- Inserts rows in turn; the session keeps those that were inserted before something went wrong. -/
def insertRows (trouble : Trouble) (s : Session) (n : Nat) :
    List (Int → Stats) → Session × Except StoreError Unit
  | [] => (s, .ok ())
  | row :: rest =>
    match obstacle? s.working trouble (.insert n) with
    | some e => (s, .error e)
    | none =>
      let db := s.working
      let db := { db with stats := db.stats ++ [row (nextId (db.stats.map (·.id)))] }
      insertRows trouble { s with working := db } (n + 1) rest

/-- Computes the statistics anew and gives the number of domains. The changes are left to be
committed. -/
def rebuild (trouble : Trouble) (s : Session) : Session × Except StoreError Nat :=
  let db := s.working
  match obstacle? db trouble .readTotals with
  | some e => (s, .error e)
  | none =>
    match obstacle? db trouble .readCategories with
    | some e => (s, .error e)
    | none =>
      match obstacle? db trouble .clear with
      | some e => (s, .error e)
      | none =>
        let found := totals db
        let (s, r) := insertRows trouble { s with working := { db with stats := [] } } 1
          (found.map (rowOf db))
        (s, r.map fun _ => found.length)

/-- Who logs how a rebuild went. -/
def loggerName : String := "domain_search.services.stats"

/-- The record of a rebuild that was committed. -/
def rebuiltRecord (domains : Nat) : Log.Record where
  level := .info
  logger := loggerName
  message := "Rebuilt domain stats"
  fields := [("step", .str "stats"), ("domains_processed", .int domains)]

/-- The record of a rebuild that failed. -/
def failedRecord (e : StoreError) : Log.Record where
  level := .error
  logger := loggerName
  message := "Error during rebuild_domain_stats"
  exception := some e.errorClass.name
  fields := [("step", .str "stats")]

/-- Computes the statistics anew and commits them, or takes back everything. -/
def rebuildTask (trouble : Trouble) (s : Session) : Session × Log.Traced StoreError Nat :=
  let (after, r) := rebuild trouble s
  match r, obstacle? after.working trouble .commit with
  | .ok n, none => (after.commit, { result := .ok n, records := [rebuiltRecord n] })
  | .ok _, some e | .error e, _ =>
    (after.rollback, { result := .error e, records := [failedRecord e] })

/-- The rows of statistics in the order of the domains. -/
def rows (db : Database) : Except StoreError (List Store.Stats) :=
  match db.lacks? [.stats] (qualifiedColumns Table.stats.columns) with
  | some e => .error e
  | none => .ok (db.stats.mergeSort fun a b => a.domainId ≤ b.domainId)

end TechCatalog.Stats
