import TechCatalog.Log.Record
import TechCatalog.Query.Select
import TechCatalog.Request.Search
import TechCatalog.Service.Settings
import TechCatalog.Text.Quoted

/-!
# Order and page of a result

`PageOrder.of` settles in what order and on which page a result is shown. Only columns of a fixed
list can be sorted by, each under a name with the mark of its table or without it. Anything else is
logged and replaced by the name of the domain, ascending. The size of a page is kept between one and
the greatest size, and the number of the page so small that the offset fits 64 bits.
-/

namespace TechCatalog.Search

open Request Store Query Service

/-- A column that results can be sorted by, as it was named. -/
structure SortKey where
  column : Column
  /-- Whether the name bore the mark of the table. -/
  marked : Bool := true
  deriving DecidableEq, Repr

/-- The columns that results can be sorted by. -/
def sortableColumns : List Column :=
  [.ofDomain .domain, .ofDomain .companyName, .ofDomain .category, .ofDomain .country,
    .ofDomain .createdAt, .ofDomain .updatedAt, .ofStats .totalTechnologies, .ofStats .totalSpend]

/-- The mark of a table in the names of its columns. -/
def tableMark : Table → String
  | .domains => "d"
  | .stats => "ds"
  | .technologies => "t"
  | .links => "dt"

/-- The name of a sort key. -/
def SortKey.name (k : SortKey) : String :=
  if k.marked then tableMark k.column.table ++ "." ++ k.column.name else k.column.name

/-- All sort keys. -/
def SortKey.all : List SortKey :=
  sortableColumns.map (⟨·, true⟩) ++ sortableColumns.map (⟨·, false⟩)

/-- The sort key of a name. -/
def SortKey.ofName? (name : String) : Option SortKey :=
  SortKey.all.find? fun k => k.name == name

/-- The sort key that is used where no other applies. -/
def SortKey.default : SortKey := ⟨.ofDomain .domain, true⟩

/-- The largest offset. -/
def maxOffset : Int := Decimal.twoPow 63 - 1

/-- The order and the page of a result. -/
structure PageOrder where
  key : SortKey
  /-- Whether the greatest come first. -/
  descending : Bool
  /-- The size of a page. -/
  limit : Int
  /-- The number of the page, from 1. -/
  page : Int
  deriving DecidableEq, Repr

/-- The number of domains on the pages before. -/
def PageOrder.offset (o : PageOrder) : Int :=
  (o.page - 1) * o.limit

/-- The names of the sort keys for which the statistics are joined. -/
def statsKeys : List String :=
  ["ds.total_technologies", "ds.total_spend", "total_technologies", "total_spend"]

/-- Whether the statistics are joined for the sort key. -/
def PageOrder.needsStats (o : PageOrder) : Bool :=
  statsKeys.contains o.key.name

/-- The record of a name that results cannot be sorted by. -/
def unsortableRecord (name : String) : Log.Record where
  level := .warning
  logger := "domain_search.services.search.ordering"
  message := "Ignoring unsortable field " ++ Text.quoted name
  fields := [("step", .str "ordering")]

/-- The sort key and direction of a request. -/
def sortOf (p : Paging) : SortKey × Bool × List Log.Record :=
  match p.sortBy with
  | none => (.default, p.sortOrder == .descending, [])
  | some name =>
    match SortKey.ofName? name with
    | some k => (k, p.sortOrder == .descending, [])
    | none => (.default, false, [unsortableRecord name])

/-- The size of a page: what is asked for, or else the usual size, kept in bounds. Zero asks for
nothing. -/
def limitOf (p : Paging) (s : Settings) : Int :=
  let wanted := match p.limit with
    | some n => if n = 0 then s.defaultPageSize else n
    | none => s.defaultPageSize
  max 1 (min wanted s.maxPageSize)

/-- The number of the page: what is asked for, but at least 1 and at most the last page whose offset
fits. -/
def pageOf (p : Paging) (limit : Int) : Int :=
  min (max 1 p.page) (Int.fdiv maxOffset limit + 1)

/-- The order and the page of a request, with what is logged about it. -/
def PageOrder.of (p : Paging) (s : Settings) : PageOrder × List Log.Record :=
  let (key, descending, records) := sortOf p
  let limit := limitOf p s
  (⟨key, descending, limit, pageOf p limit⟩, records)

end TechCatalog.Search
