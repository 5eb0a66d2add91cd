import TechCatalog.Profile.Domain
import TechCatalog.Request.Search

/-!
# Forms

The forms are the kinds of documents that callers and the service exchange. `Form.check` reads a
document as a form and writes what was read; `Form.assign` changes one attribute of a document of a
form afterwards, which the forms of requests do not allow.
-/

namespace TechCatalog.Profile

open Request

/-- The kinds of documents. -/
inductive Form where
  /-- A filter of text. -/
  | text
  /-- A filter by lists. -/
  | list
  /-- Bounds on an amount. -/
  | amountRange
  /-- Bounds on a count. -/
  | countRange
  /-- A filter by category. -/
  | category
  /-- What is asked of a domain. -/
  | filters
  /-- Which page is wanted. -/
  | paging
  /-- A whole request. -/
  | request
  /-- A technology of a domain. -/
  | technology
  /-- Technologies in numbers. -/
  | summary
  | profile
  /-- A page of profiles. -/
  | page
  /-- The answer to a search. -/
  | reply
  deriving DecidableEq, Repr

/-- The name of a form in messages. -/
def Form.name : Form → String
  | .text => "StringFilter"
  | .list => "LogicalFilter"
  | .amountRange => "RangeFilter"
  | .countRange => "CountRangeFilter"
  | .category => "TechnologyCategoryFilter"
  | .filters => "DomainSearch"
  | .paging => "SearchOptions"
  | .request => "DomainSearchRequest"
  | .technology => "TechnologyDetails"
  | .summary => "TechnologyStats"
  | .profile => "EnrichedDomain"
  | .page => "DomainSearchResult"
  | .reply => "DomainSearchResponse"

/-- All forms. -/
def Form.all : List Form :=
  [.text, .list, .amountRange, .countRange, .category, .filters, .paging, .request, .technology,
    .summary, .profile, .page, .reply]

/-- The form of a name. -/
def Form.ofName? (name : String) : Option Form :=
  Form.all.find? fun f => f.name == name

/-- Reads a document as a form and writes what was read. -/
def Form.check (r : Json.Reader) (f : Form) (v : Json) : Checked Json :=
  match f with
  | .text => (TextFilter.read .value v).map TextFilter.dump
  | .list => (ListFilter.read .value v).map ListFilter.dump
  | .amountRange => (AmountRange.read .value v).map (Range.dump .num)
  | .countRange => (CountRange.read .value v).map (Range.dump .int)
  | .category => (CategoryFilter.read .value v).map CategoryFilter.dump
  | .filters => (Filters.read .value v).map Filters.dump
  | .paging => (Paging.read .value v).map Paging.dump
  | .request => (SearchRequest.read .value v).map SearchRequest.dump
  | .technology => (OwnedTechnology.read .value v).map OwnedTechnology.dump
  | .summary => (Summary.read .value v).map Summary.dump
  | .profile => (DomainProfile.read r .value v).map DomainProfile.dump
  | .page => (ResultPage.read r .value v).map ResultPage.dump
  | .reply => (Reply.read r .value v).map Reply.dump

/-- Whether a stored collection in a document of a form is nested beyond the limit. -/
def Form.nestingFault? (r : Json.Reader) (f : Form) (v : Json) : Option Bool :=
  match f with
  | .profile => DomainProfile.nestingFault? r v
  | .page => ResultPage.nestingFault? r v
  | .reply => (v.get? "data").bind (ResultPage.nestingFault? r)
  | _ => none

/-- The attributes that may be assigned, each with the key it is written under; none for the forms
of requests, which are fixed once they are read. -/
def Form.assignable : Form → Option (List Key)
  | .technology => some (["name", "category", "is_premium", "description", "spend", "subdomain",
      "first_identified", "last_identified", "first_detected", "last_detected"].map Key.only)
  | .summary => some [.only "total_technologies", .only "total_spend",
      ⟨"technologyCategories", "technology_categories"⟩]
  | .profile => some (["id", "domain", "company_name", "category", "country", "state", "city",
      "zip_code", "social_links", "emails", "phones", "people", "created_at", "updated_at",
      "technologies"].map Key.only ++ [⟨"technologyStats", "technology_stats"⟩])
  | .page => some [.only "domains", ⟨"totalCount", "total_count"⟩]
  | .reply => some [.only "data"]
  | _ => none

/-- Why an attribute was not assigned. -/
inductive AssignError where
  /-- The document is fixed. -/
  | rejected (faults : List Fault)
  /-- The form has no such attribute. -/
  | noAttribute (form name : String)

/-- What is said of an attribute that a form does not have. -/
def noAttributeMessage (form name : String) : String :=
  "\"" ++ form ++ "\" object has no field \"" ++ name ++ "\""

/-- Assigns an attribute of a written document; the new value is not checked. -/
def Form.assign (f : Form) (name : String) (value written : Json) : Except AssignError Json :=
  match f.assignable with
  | none => .error (.rejected [⟨.frozen, [.key name]⟩])
  | some keys =>
    match keys.find? fun k => k.plain == name, written with
    | some k, .obj o => .ok (.obj (Json.Members.put k.wire value o))
    | _, _ => .error (.noAttribute f.name name)

end TechCatalog.Profile
