import TechCatalog.Json.Reader
import TechCatalog.Options.Ranking
import TechCatalog.Search.Execution
import TechCatalog.Service.Exchange

/-!
# Endpoints

The service answers searches and offers lists of values to choose from. `Endpoint.serve` answers a
call at one endpoint: a request with faults is rejected before anything is asked of the store, a
search whose statement the store rejects is answered with the reason, and any other error breaks the
service down.
-/

namespace TechCatalog.Service

open Request Store

/-- The endpoints. -/
inductive Endpoint where
  /-- Searching for domains. -/
  | search
  /-- The categories of domains. -/
  | categories
  /-- The countries of domains. -/
  | countries
  | technologyCategories
  | companyNames
  /-- The names of technologies. -/
  | technologies
  deriving DecidableEq, Repr

/-- All endpoints. -/
def Endpoint.all : List Endpoint :=
  [.search, .categories, .countries, .technologyCategories, .companyNames, .technologies]

/-- The method of an endpoint. -/
def Endpoint.method : Endpoint → String
  | .search => "POST"
  | _ => "GET"

/-- The path of an endpoint. -/
def Endpoint.path : Endpoint → String
  | .search => "/domain-search"
  | .categories => "/options/categories"
  | .countries => "/options/countries"
  | .technologyCategories => "/options/technology-categories"
  | .companyNames => "/options/company-names"
  | .technologies => "/options/technologies"

/-- The part of a text before the first occurrence of a character. -/
def beforeMark (mark : Char) (s : String) : String :=
  String.ofList (s.toList.takeWhile (· ≠ mark))

/-- Whether content of this type is a document: whatever parameters follow, it is named
`application/json` or `application/` with a name that ends in `+json`. No type counts as one. -/
def isDocumentType (contentType : String) : Bool :=
  let name := (Text.strip (Text.lower (beforeMark ';' contentType))).toList
  contentType == "" || name == "application/json".toList ||
    ("application/".toList.isPrefixOf name && "+json".toList.isSuffixOf name &&
      name.count '/' == 1)

/-- A text without the byte order mark at its front. -/
def withoutOrderMark (s : String) : String :=
  match s.toList with
  | c :: rest => if c.toNat = 0xFEFF then String.ofList rest else s
  | [] => s

/-- The document that a call sends, if it sends any. Content of another type stands for its text. -/
def Call.document (r : Json.Reader) (c : Call) : Except Response (Option Json) :=
  if c.body = "" then .ok none
  else if isDocumentType ((c.header? "content-type").getD "") then
    let text := withoutOrderMark c.body
    match Json.read r text with
    | .ok v => .ok (some v)
    | .error (.malformed left) =>
      .error (.rejected [⟨.notDocument, [.key "body", .index (Json.ReadError.position text left)]⟩])
    | .error _ => .error .unreadableBody
  else .ok (some (.str c.body))

/-- Reads the search request that a call sends. -/
def Call.searchRequest (r : Json.Reader) (c : Call) : Except Response SearchRequest :=
  match c.document r with
  | .error response => .error response
  | .ok none => .error (.rejected [⟨.missing, [.key "body"]⟩])
  | .ok (some v) =>
    match (SearchRequest.read .body v).within (.key "body") with
    | .accept request => .ok request
    | .reject faults => .error (.rejected faults)

/-- The length of a list of options that is asked for, kept in bounds. -/
def optionsLimit (s : Settings) (limit : Int) : Int :=
  max 1 (min limit s.maxPageSize)

/-- Reads what the query of a call asks of a list. Of a repeated parameter the last counts. -/
def Call.wanted (c : Call) (s : Settings) : Checked Options.Wanted :=
  let given := c.query.foldl (fun o p => Json.Members.put p.1 (.str p.2) o) []
  let search := match Json.Members.get? "search" given with
    | some (.str s) => s
    | _ => ""
  let make (limit offset : Int) : Options.Wanted :=
    ⟨some search, some (optionsLimit s limit), offset⟩
  ((((Key.only "limit").optional s.optionsDefaultLimit readInteger given).map make).both
    ((Key.only "offset").optional 0 (atLeast 0 readInteger) given)).within (.key "query")

/-- The error of a service that broke down. -/
structure Breakdown where

/-- What is sent to the caller when the store rejects the statement of a search. -/
def searchFailed (phase : Search.Phase) (cause : StoreError) : Response :=
  .ofDocument 500 (.obj [("error", .str "Search operation failed"),
    ("message", .str (Search.failureMessage phase.name cause.message))])

/-- Answers a search. -/
def serveSearch (db : Database) (s : Settings) (requestId : Option String) (c : Call) :
    Log.Traced Breakdown Response :=
  match c.searchRequest db.platform.reader with
  | .error r => .ofExcept (.ok r)
  | .ok r =>
    let found := Search.execute db r.filters r.paging s requestId
    { found with result := match found.result with
      | .ok page => .ok (.ofDocument 200 (Profile.Reply.mk page).dump)
      | .error (.failed phase cause) => .ok (searchFailed phase cause)
      | .error _ => .error {} }

/-- Answers a request for a list of values. -/
def serveOptions (db : Database) (source : Options.Source) (w : Options.Wanted) :
    Log.Traced Breakdown Response :=
  .statement <| match source.list db w with
    | .ok values => .ok (.ofDocument 200 (.ofTexts values))
    | .error _ => .error {}

/-- Answers a request for the part of a list of values that its query asks for. -/
def servePartOf (db : Database) (s : Settings) (source : Options.Source) (c : Call) :
    Log.Traced Breakdown Response :=
  match c.wanted s with
  | .accept w => serveOptions db source w
  | .reject faults => .ofExcept (.ok (.rejected faults))

/-- Answers a call at an endpoint. -/
def Endpoint.serve (db : Database) (s : Settings) (requestId : Option String) (c : Call) :
    Endpoint → Log.Traced Breakdown Response
  | .search => serveSearch db s requestId c
  | .categories => serveOptions db (.domains .category) {}
  | .countries => serveOptions db (.domains .country) {}
  | .technologyCategories => serveOptions db .technologyCategories {}
  | .companyNames => servePartOf db s (.domains .companyName) c
  | .technologies => servePartOf db s .technologyNames c

end TechCatalog.Service
