import TechCatalog.Search.Conditions
import TechCatalog.Search.Joins
import TechCatalog.Search.PageOrder

/-!
# The two statements of a search put together

`assemble` makes a counting statement and a page statement of one search, from one plan of joins and
one list of clauses. A guard then compares what the two bind: every place of the counting statement
must be found in the page statement under the same name and with the same value. The names number
the places of one label in order. A value that is not equal to itself is reported as a difference.
-/

namespace TechCatalog.Search

open Request Query Store Service

/-- The places of a list that bear the same label as earlier ones are numbered on from them. -/
def numberedFrom {β : Type} (seen : List String) : List (String × β) → List (String × β)
  | [] => []
  | (label, b) :: rest =>
    (label ++ "_" ++ toString (seen.count label + 1), b) :: numberedFrom (label :: seen) rest

/-- Names for bindings: the label with a number that counts the places of the label. -/
def named {β : Type} (bindings : List (String × β)) : List (String × β) :=
  numberedFrom [] bindings

/-- Whether two values are taken for the same. Numbers are compared by size, whatever their kind. -/
def sameValue : Value → Value → Bool
  | .real x, .real y => Decimal.same x y
  | .int i, .real x => Decimal.integral? x == some i
  | .real x, .int i => Decimal.integral? x == some i
  | v, w => v == w

/-- Whether two lists of values are taken for the same. -/
def sameValues : List Value → List Value → Bool
  | [], [] => true
  | v :: vs, w :: ws => sameValue v w && sameValues vs ws
  | _, _ => false

/-- Whether two bindings are taken for the same. -/
def sameBinding : Binding → Binding → Bool
  | .one v, .one w => sameValue v w
  | .many vs, .many ws => sameValues vs ws
  | _, _ => false

/-- The names of the bindings of a first list that a second does not have in the same way. -/
def divergingNames (first second : List (String × Binding)) : List String :=
  ((named first).filter fun b =>
    match (named second).lookup b.1 with
    | some other => !sameBinding b.2 other
    | none => true).map (·.1)

/-- What is said of bindings that differ. -/
def divergingMessage (names : List String) : String :=
  "COUNT and SELECT parameters diverge: " ++
    ", ".intercalate (names.mergeSort fun s t => decide (s ≤ t))

/-- Accepts two lists of bindings, or gives the names in which they differ. -/
def checkShared (first second : List (String × Binding)) : Except (List String) Unit :=
  match divergingNames first second with
  | [] => .ok ()
  | names => .error names

/-- The statements of a search, with the plan and the order they were made from. -/
structure QueryPair where
  /-- Which domains are wanted. -/
  selection : Selection
  /-- The page that is wanted. -/
  page : PageQuery
  /-- The tables that are joined, and why. -/
  joins : List PlannedJoin
  ordering : PageOrder

/-- The page query of a selection. -/
def pageQuery (selection : Selection) (o : PageOrder) : PageQuery where
  selection := selection
  sortColumn := o.key.column
  descending := o.descending
  limit := o.limit
  offset := o.offset

/-- The statements of a search whose order is settled, not yet compared. -/
def composePair (f : Filters) (o : PageOrder) : QueryPair :=
  let joins := planJoins f o.needsStats
  let selection : Selection := ⟨joins.map (·.table), clausesOf f⟩
  ⟨selection, pageQuery selection o, joins, o⟩

/-- The statements of a search, with what is logged on the way; an error gives the names in which
the two statements differ. -/
def assemble (f : Filters) (p : Paging) (s : Settings) :
    Except (List String) QueryPair × List Log.Record :=
  let (ordering, records) := PageOrder.of p s
  let pair := composePair f ordering
  match checkShared pair.selection.countStatement.bindings pair.page.statement.bindings with
  | .ok () => (.ok pair, records)
  | .error names => (.error names, records)

end TechCatalog.Search
