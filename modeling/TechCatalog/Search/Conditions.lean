import TechCatalog.Query.Condition
import TechCatalog.Request.Search
import TechCatalog.Text.Like

/-!
# From filters to conditions

Each filter of a search becomes at most one clause; a filter that asks for nothing becomes none.
`clausesOf` collects the clauses of all filters in a fixed order. Values are only ever put where a
statement binds values.
-/

namespace TechCatalog.Search

open Request Store Query

/-- The pattern that a way to compare makes of a text; none for a comparison of whole texts. -/
def patternFor (m : MatchType) (value : String) : Option String :=
  let literal := Text.escapeLike value
  match m with
  | .exact => none
  | .contains => some ("%" ++ literal ++ "%")
  | .startsWith => some (literal ++ "%")
  | .endsWith => some ("%" ++ literal)

/-- The test of a text filter. Where letter case does not count, column and value are both made
small, the column by the store and the value by the rules of all letters. -/
def textTest (c : Column) (f : TextFilter) : Test :=
  let x : Operand := if f.caseSensitive then .column c else .lowered c
  let value := if f.caseSensitive then f.value else Text.lower f.value
  match patternFor f.matchType value with
  | none => .compare x .equal (.text value)
  | some pattern => .like x pattern

/-- The clause of a text filter. -/
def textClause (c : Column) (f : TextFilter) : Clause :=
  .ofTest (textTest c f)

/-- The clause of a list filter on a column with one value per domain. Values to accept come before
values to refuse, and values required together are not looked at. -/
def singleClause? (c : Column) (f : ListFilter) : Option Clause :=
  match valuesOf f.included, valuesOf f.excluded with
  | v :: vs, _ =>
    some (.any ((v :: vs).map fun v => .holds [.compare (.column c) .equal (.text v)]))
  | [], v :: vs =>
    some (.all ((v :: vs).map fun v => .holds [.compare (.column c) .unequal (.text v)]))
  | [], [] => none

/-- The clause of a list filter on the names of technologies: the joined link has one of the names
to accept, the domain owns none of the names to refuse, and it owns all of the required names. -/
def namesClause? (f : ListFilter) : Option Clause :=
  let included := valuesOf f.included
  let excluded := valuesOf f.excluded
  let required := (valuesOf f.required).eraseDups
  let tests : List Test :=
    (if included.isEmpty then [] else [.among (.ofLink .technologyName) included]) ++
    (if excluded.isEmpty then [] else [.notOwner (.ofAny excluded)]) ++
    (if required.isEmpty then [] else [.owner (.ofAll required)])
  if tests.isEmpty then none else some (.ofTests tests)

/-- The tests of a range on a column. -/
def rangeTests {α : Type} (c : Column) (value : α → Value) (r : Range α) : List Test :=
  (r.min.map fun lo => Test.compare (.column c) (if r.inclusive then .atLeast else .greater)
    (value lo)).toList ++
  (r.max.map fun hi => Test.compare (.column c) (if r.inclusive then .atMost else .less)
    (value hi)).toList

/-- The clause of a range on a column. -/
def rangeClause? {α : Type} (c : Column) (value : α → Value) (r : Range α) : Option Clause :=
  let tests := rangeTests c value r
  if tests.isEmpty then none else some (.ofTests tests)

/-- The bound on the number of technologies that a category filter sets. -/
def countBound? (f : CategoryFilter) : Option CountBound :=
  match f.minCount, f.maxCount with
  | some lo, some hi => some (.between lo hi)
  | some lo, none => some (.atLeast lo)
  | none, some hi => some (.atMost hi)
  | none, none => none

/-- The term of a category filter. A negated filter negates the joined row, not all technologies of
the domain. -/
def categoryTerm (f : CategoryFilter) : Term :=
  let column : Operand := .column (.ofTechnology .category)
  match countBound? f, f.operator with
  | none, .not => .holds [.compare column .unequal (.text f.category)]
  | none, _ => .holds [.compare column .equal (.text f.category)]
  | some bound, .not =>
    .fails [.compare column .equal (.text f.category), .owner (.ofCategory f.category bound)]
  | some bound, _ =>
    .holds [.compare column .equal (.text f.category), .owner (.ofCategory f.category bound)]

/-- The clause of a list of category filters. A single alternative anywhere makes alternatives of
them all. -/
def categoriesClause? (fs : List CategoryFilter) : Option Clause :=
  if fs.isEmpty then none
  else if fs.any fun f => f.operator == .or then some (.any (fs.map categoryTerm))
  else some (.all (fs.map categoryTerm))

/-- The clauses of all filters, in the order of the filters. -/
def clausesOf (f : Filters) : List Clause :=
  [f.domain.map (textClause (.ofDomain .domain)),
    f.companyName.map (textClause (.ofDomain .companyName)),
    f.category.bind (singleClause? (.ofDomain .category)),
    f.country.bind (singleClause? (.ofDomain .country)),
    f.technologies.bind namesClause?,
    f.technologyCategories.bind categoriesClause?,
    f.totalSpendRange.bind (rangeClause? (.ofLink .spend) .real),
    f.technologyCountRange.bind (rangeClause? (.ofStats .totalTechnologies) .int)].filterMap id

end TechCatalog.Search
