import TechCatalog.Search.Assembly
import TechCatalog.Search.Enrichment

/-!
# Running a search

`execute` runs a search in three phases: it counts the matching domains, selects one page of them,
and enriches the page with technologies. When the store rejects the statement of a phase, the error
names the phase and one record tells of the failure. A search that completes is logged with its
size.
-/

namespace TechCatalog.Search

open Store Query Profile Request Service

/-- The phases of a search. -/
inductive Phase where
  /-- Counting the matching domains. -/
  | count
  /-- Selecting the domains of the page. -/
  | select
  /-- Putting together their profiles. -/
  | enrich
  deriving DecidableEq, Repr

/-- The name of a phase. -/
def Phase.name : Phase → String
  | .count => "count"
  | .select => "select"
  | .enrich => "enrich"

/-- Why a search gives no result. -/
inductive SearchError where
  /-- The two statements bind different values under these names. -/
  | diverging (names : List String)
  /-- The store rejects the statement of a phase. -/
  | failed (phase : Phase) (cause : StoreError)
  /-- A number does not fit the 64 bits that the store has for it. -/
  | overflow
  /-- A stored collection has items of the wrong kind. -/
  | badProfile (faults : List Fault)
  /-- A stored collection is nested beyond the limit; the flag says whether in an object. -/
  | tooDeep (inObject : Bool)

/-- What is said of a phase whose statement the store rejects. -/
def failureMessage (phase message : String) : String :=
  "Domain search " ++ phase ++ " query failed: " ++ message

/-- Who logs how a search went. -/
def executorName : String := "domain_search.services.search.executor"

/-- The record of a phase whose statement the store rejects. -/
def failedRecord (phase : Phase) (cause : StoreError) (requestId : Option String) : Log.Record where
  level := .error
  logger := executorName
  message := "Domain search failed"
  exception := some cause.errorClass.name
  fields := [("phase", .str phase.name), ("request_id", .ofText? requestId)]

/-- The record of a search that completes. -/
def completedRecord (requestId : Option String) (totalCount pageSize : Nat) : Log.Record where
  level := .info
  logger := executorName
  message := "Domain search completed"
  fields := [("request_id", .ofText? requestId), ("total_count", .int totalCount),
    ("page_size", .int pageSize)]

/-- What an error of a phase means for the search. -/
def phaseError (phase : Phase) : EnrichmentError → SearchError
  | .run (.store e) => .failed phase e
  | .run .overflow => .overflow
  | .badProfile faults => .badProfile faults
  | .tooDeep inObject => .tooDeep inObject

/-- What is logged about an error of a phase. -/
def phaseReport (phase : Phase) (requestId : Option String) : EnrichmentError → List Log.Record
  | .run (.store e) => [failedRecord phase e requestId]
  | _ => []

/-- Work done as a phase of a search. -/
def inPhase {α : Type} (phase : Phase) (requestId : Option String)
    (x : Log.Traced EnrichmentError α) : Log.Traced SearchError α :=
  x.onError (phaseError phase) (phaseReport phase requestId)

/-- Runs the statements of a search and puts together its page. -/
def runPair (db : Database) (q : QueryPair) (requestId : Option String) :
    Log.Traced SearchError ResultPage :=
  (inPhase .count requestId (.statement ((q.selection.runCount db).mapError .run))).andThen
    fun total =>
  (inPhase .select requestId (.statement ((q.page.run db).mapError .run))).andThen fun page =>
  (inPhase .enrich requestId (profiles db page)).andThen fun shown =>
  (Log.Traced.log (completedRecord requestId total shown.length)).map fun _ =>
    { domains := shown, totalCount := total }

/-- Runs a search. -/
def execute (db : Database) (f : Filters) (p : Paging) (s : Settings)
    (requestId : Option String) : Log.Traced SearchError ResultPage :=
  let (pair, records) := assemble f p s
  let start : Log.Traced SearchError QueryPair :=
    { result := pair.mapError .diverging, records := records }
  start.andThen fun q => runPair db q requestId

end TechCatalog.Search
