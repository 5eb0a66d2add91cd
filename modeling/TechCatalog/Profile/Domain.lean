import TechCatalog.Json.Reader
import TechCatalog.Profile.Technology

/-!
# Profiles

A profile is everything that is shown of one domain: its own attributes, its technologies and their
summary. Links, addresses, phone numbers and people are kept in the store as the text of a document;
`collection` takes such a text apart, and gives nothing where it is no array. `ResultPage` is a page
of profiles with the number of all matches, and `Reply` is what a search answers.
-/

namespace TechCatalog.Profile

open Request

/-- The value that a stored text writes. Text that is no document counts as null, and a value that
is not text is taken as it is. Only nesting beyond the limit is an error, for which the result says
whether an object was being read. -/
def parseStored (r : Json.Reader) : Json → Except Bool Json
  | .str s =>
    match Json.read r s with
    | .ok v => .ok v
    | .error (.tooDeep inObject) => .error inObject
    | .error _ => .ok .null
  | v => .ok v

/-- The items of a stored collection, if it is an array. -/
def collection (r : Json.Reader) (v : Json) : Json :=
  match parseStored r v with
  | .ok (.arr items) => .arr items
  | _ => .null

/-- Reads an object and keeps its members as they are. -/
def readMembers : Json → Checked Json.Members
  | .obj o => .accept o
  | _ => .fail .notObject

/-- Reads a stored list of texts. -/
def readTexts (r : Json.Reader) (v : Json) : Checked (Option (List String)) :=
  nullable (readList readText) (collection r v)

/-- Reads a stored list of people. -/
def readPeople (r : Json.Reader) (v : Json) : Checked (Option (List Json.Members)) :=
  nullable (readList readMembers) (collection r v)

/-- Everything that is shown of a domain. -/
structure DomainProfile where
  /-- The number of the domain in the store. -/
  id : Int
  /-- The name of the domain. -/
  domain : String
  companyName : Option String := none
  category : Option String := none
  country : Option String := none
  state : Option String := none
  city : Option String := none
  /-- The postal code. -/
  zipCode : Option String := none
  /-- Links to pages on social networks. -/
  socialLinks : Option (List String) := none
  /-- Mail addresses. -/
  emails : Option (List String) := none
  /-- Phone numbers. -/
  phones : Option (List String) := none
  /-- People, each an object of any members. -/
  people : Option (List Json.Members) := none
  /-- When the domain was entered. -/
  createdAt : Option Calendar.Moment := none
  /-- When the domain was last changed. -/
  updatedAt : Option Calendar.Moment := none
  technologies : List OwnedTechnology := []
  /-- The technologies in numbers. -/
  summary : Summary := {}

/-- The members of a profile that hold stored collections. -/
def collectionKeys : List String :=
  ["social_links", "emails", "phones", "people"]

/-- Reads a profile. -/
def DomainProfile.read (r : Json.Reader) (origin : Origin) : Json → Checked DomainProfile :=
  readForm origin "EnrichedDomain" fun o =>
    let text (name : String) := (Key.only name).optional none (nullable readText) o
    let texts (name : String) := (Key.only name).optional none (readTexts r) o
    let moment (name : String) := (Key.only name).optional none (nullable readMoment) o
    let own := ((((((((((Key.only "id").required readInteger o).map DomainProfile.mk).both
      ((Key.only "domain").required readText o)).both
      (text "company_name")).both (text "category")).both (text "country")).both
      (text "state")).both (text "city")).both (text "zip_code"))
    let stored := (((own.both (texts "social_links")).both (texts "emails")).both
      (texts "phones")).both ((Key.only "people").optional none (readPeople r) o)
    (((stored.both (moment "created_at")).both (moment "updated_at")).both
      ((Key.only "technologies").optional [] (readList (OwnedTechnology.read origin)) o)).both
      ((Key.mk "technologyStats" "technology_stats").optional {} (Summary.read origin) o)

/-- Whether a stored collection of a profile is nested beyond the limit, and in what. -/
def DomainProfile.nestingFault? (r : Json.Reader) (v : Json) : Option Bool :=
  collectionKeys.findSome? fun key =>
    match (v.get? key).map (parseStored r) with
    | some (.error inObject) => some inObject
    | _ => none

/-- A list of texts, or null. -/
def dumpTexts? : Option (List String) → Json
  | some xs => .ofTexts xs
  | none => .null

/-- Writes a profile. -/
def DomainProfile.dump (p : DomainProfile) : Json :=
  .obj [("id", .int p.id), ("domain", .str p.domain), ("company_name", .ofText? p.companyName),
    ("category", .ofText? p.category), ("country", .ofText? p.country),
    ("state", .ofText? p.state), ("city", .ofText? p.city), ("zip_code", .ofText? p.zipCode),
    ("social_links", dumpTexts? p.socialLinks), ("emails", dumpTexts? p.emails),
    ("phones", dumpTexts? p.phones),
    ("people", match p.people with | some os => .arr (os.map .obj) | none => .null),
    ("created_at", dumpMoment? p.createdAt), ("updated_at", dumpMoment? p.updatedAt),
    ("technologies", .arr (p.technologies.map OwnedTechnology.dump)),
    ("technologyStats", p.summary.dump)]

/-- A page of profiles. -/
structure ResultPage where
  domains : List DomainProfile := []
  /-- The number of all matches. -/
  totalCount : Int := 0

/-- Reads a page. -/
def ResultPage.read (r : Json.Reader) (origin : Origin) : Json → Checked ResultPage :=
  readForm origin "DomainSearchResult" fun o =>
    let domains := (Key.only "domains").optional [] (readList (DomainProfile.read r origin)) o
    (domains.map ResultPage.mk).both ((Key.mk "totalCount" "total_count").optional 0 readInteger o)

/-- Whether a stored collection of some profile of a page is nested beyond the limit. -/
def ResultPage.nestingFault? (r : Json.Reader) (v : Json) : Option Bool :=
  match v.get? "domains" with
  | some (.arr items) => items.findSome? (DomainProfile.nestingFault? r)
  | _ => none

/-- Writes a page. -/
def ResultPage.dump (r : ResultPage) : Json :=
  .obj [("domains", .arr (r.domains.map DomainProfile.dump)), ("totalCount", .int r.totalCount)]

/-- The answer to a search. -/
structure Reply where
  /-- The page that was asked for. -/
  data : ResultPage

/-- Reads an answer. -/
def Reply.read (r : Json.Reader) (origin : Origin) : Json → Checked Reply :=
  readForm origin "DomainSearchResponse" fun o =>
    ((Key.only "data").required (ResultPage.read r origin) o).map Reply.mk

/-- Writes an answer. -/
def Reply.dump (r : Reply) : Json :=
  .obj [("data", r.data.dump)]

end TechCatalog.Profile
