import TechCatalog.Request.Filter

/-!
# Search requests

`Filters` holds everything that can be asked of a domain, each part optional; an absent part asks
for nothing. `Paging` says which page of the result is wanted and in what order, and `SearchRequest`
puts both together. What is read is written back by `dump` under the wire spelling of its members.
-/

namespace TechCatalog.Request

/-- What is asked of a domain. -/
structure Filters where
  /-- The name of the domain. -/
  domain : Option TextFilter := none
  companyName : Option TextFilter := none
  /-- The category of the domain. -/
  category : Option ListFilter := none
  country : Option ListFilter := none
  /-- The names of technologies. -/
  technologies : Option ListFilter := none
  technologyCategories : Option (List CategoryFilter) := none
  /-- What is spent on a technology. -/
  totalSpendRange : Option AmountRange := none
  /-- How many technologies the domain has. -/
  technologyCountRange : Option CountRange := none
  deriving DecidableEq, Repr

/-- Reads a text filter that may be absent. An object without a value, or with a blank one, asks for
nothing, whatever else it holds. -/
def readTextFilter? (origin : Origin) (v : Json) : Checked (Option TextFilter) :=
  match v with
  | .obj o =>
    match Json.Members.get? "value" o with
    | none => .accept none
    | some .null => .accept none
    | some (.str s) =>
      if Text.allBlank s then .accept none else nullable (TextFilter.read origin) v
    | some _ => nullable (TextFilter.read origin) v
  | _ => nullable (TextFilter.read origin) v

/-- Reads what is asked of a domain. -/
def Filters.read (origin : Origin) : Json → Checked Filters :=
  readForm origin "DomainSearch" fun o =>
    let list := nullable (ListFilter.read origin)
    ((((((((Key.only "domain").optional none (readTextFilter? origin) o).map Filters.mk).both
      ((Key.mk "companyName" "company_name").optional none (readTextFilter? origin) o)).both
      ((Key.only "category").optional none list o)).both
      ((Key.only "country").optional none list o)).both
      ((Key.only "technologies").optional none list o)).both
      ((Key.mk "technologyCategories" "technology_categories").optional none
        (nullable (readTuple (CategoryFilter.read origin))) o)).both
      ((Key.mk "totalSpendRange" "total_spend_range").optional none
        (nullable (AmountRange.read origin)) o)
      |>.both ((Key.mk "technologyCountRange" "technology_count_range").optional none
        (nullable (CountRange.read origin)) o)

/-- Writes a part that may be absent. -/
def dump? {α : Type} (write : α → Json) : Option α → Json
  | some a => write a
  | none => .null

/-- Writes what is asked of a domain. -/
def Filters.dump (f : Filters) : Json :=
  .obj [("domain", dump? TextFilter.dump f.domain),
    ("companyName", dump? TextFilter.dump f.companyName),
    ("category", dump? ListFilter.dump f.category),
    ("country", dump? ListFilter.dump f.country),
    ("technologies", dump? ListFilter.dump f.technologies),
    ("technologyCategories",
      dump? (fun fs => .arr (fs.map CategoryFilter.dump)) f.technologyCategories),
    ("totalSpendRange", dump? (Range.dump .num) f.totalSpendRange),
    ("technologyCountRange", dump? (Range.dump .int) f.technologyCountRange)]

/-- The direction of a sort. -/
inductive SortOrder where
  /-- From the least to the greatest. -/
  | ascending
  /-- From the greatest to the least. -/
  | descending
  deriving DecidableEq, Repr

/-- The words for the directions. -/
def SortOrder.words : List (String × SortOrder) :=
  [("ASC", .ascending), ("DESC", .descending)]

/-- The word for a direction. -/
def SortOrder.word : SortOrder → String
  | .ascending => "ASC"
  | .descending => "DESC"

/-- Which page of a result is wanted, and in what order. -/
structure Paging where
  /-- The size of a page. -/
  limit : Option Int := none
  /-- The number of the page, from 1. -/
  page : Int := 1
  /-- The attribute to sort by. -/
  sortBy : Option String := none
  /-- The direction of the sort. -/
  sortOrder : SortOrder := .ascending
  deriving DecidableEq, Repr

/-- Reads a direction; blanks around the word and its letter case do not count. -/
def readSortOrder : Json → Checked SortOrder
  | .str s => readWord SortOrder.words (.str (Text.upper (Text.strip s)))
  | v => readWord SortOrder.words v

/-- Reads which page is wanted. -/
def Paging.read (origin : Origin) : Json → Checked Paging :=
  readForm origin "SearchOptions" fun o =>
    (((((Key.only "limit").optional none (nullable (above 0 readInteger)) o).map Paging.mk).both
      ((Key.only "page").optional 1 (above 0 readInteger) o)).both
      ((Key.mk "sortBy" "sort_by").optional none (nullable readText) o)).both
      ((Key.mk "sortOrder" "sort_order").optional .ascending readSortOrder o)

/-- Writes which page is wanted. -/
def Paging.dump (p : Paging) : Json :=
  .obj [("limit", .ofInt? p.limit), ("page", .int p.page), ("sortBy", .ofText? p.sortBy),
    ("sortOrder", .str p.sortOrder.word)]

/-- A whole request. -/
structure SearchRequest where
  /-- What is asked of a domain. -/
  filters : Filters := {}
  /-- Which page is wanted. -/
  paging : Paging := {}
  deriving DecidableEq, Repr

/-- Reads a request. -/
def SearchRequest.read (origin : Origin) : Json → Checked SearchRequest :=
  readForm origin "DomainSearchRequest" fun o =>
    (((Key.mk "searchParams" "search_params").optional {} (Filters.read origin) o).map
      SearchRequest.mk).both ((Key.only "options").optional {} (Paging.read origin) o)

/-- Writes a request. -/
def SearchRequest.dump (r : SearchRequest) : Json :=
  .obj [("searchParams", r.filters.dump), ("options", r.paging.dump)]

end TechCatalog.Request
