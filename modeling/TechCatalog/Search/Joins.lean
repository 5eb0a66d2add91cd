import TechCatalog.Query.Select
import TechCatalog.Request.Search

/-!
# Which tables a search joins

Only tables that some active filter or the sort order needs are joined. `planJoins` lists them in a
fixed order, technologies after the links they hang on, each with the reasons for joining it.
-/

namespace TechCatalog.Search

open Request Query

/-- A table to be joined, with the parts of the request that need it. -/
structure PlannedJoin where
  table : JoinTable
  /-- The parts of the request that need it. -/
  triggeredBy : List String
  deriving DecidableEq, Repr

/-- A reason, if it applies. -/
def reason (applies : Bool) (name : String) : List String :=
  if applies then [name] else []

/-- Whether an optional list filter is there and names a value. -/
def listActive (f : Option ListFilter) : Bool :=
  f.any ListFilter.isActive

/-- Whether an optional range is there and has a bound. -/
def rangeActive {α : Type} (r : Option (Range α)) : Bool :=
  r.any Range.isActive

/-- Whether an optional list of category filters is there and has an entry. -/
def categoriesActive (fs : Option (List CategoryFilter)) : Bool :=
  fs.any fun fs => !fs.isEmpty

/-- The reasons for joining a table. -/
def reasonsFor (f : Filters) (sortNeedsStats : Bool) : JoinTable → List String
  | .links =>
    reason (listActive f.technologies) "technologies" ++
    reason (categoriesActive f.technologyCategories) "technologyCategories" ++
    reason (rangeActive f.totalSpendRange) "totalSpendRange"
  | .technologies => reason (categoriesActive f.technologyCategories) "technologyCategories"
  | .stats =>
    reason (rangeActive f.technologyCountRange) "technologyCountRange" ++
    reason sortNeedsStats "sortBy"

/-- The order in which tables are joined. -/
def joinOrder : List JoinTable := [.links, .technologies, .stats]

/-- The tables to join for a search. -/
def planJoins (f : Filters) (sortNeedsStats : Bool) : List PlannedJoin :=
  (joinOrder.map fun j => ⟨j, reasonsFor f sortNeedsStats j⟩).filter fun p => !p.triggeredBy.isEmpty

end TechCatalog.Search
