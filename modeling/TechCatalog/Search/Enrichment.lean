import TechCatalog.Log.Traced
import TechCatalog.Profile.Domain
import TechCatalog.Query.Meaning

/-!
# Profiles of a page

`ownedRows` lists the technologies of several domains, found with one statement; `profiles` puts
together the profiles of a page of domains from their rows and these technologies. A link to a
technology that does not exist is not shown.
-/

namespace TechCatalog.Search

open Store Query Profile Request

/-- A technology with the number of the domain that uses it. -/
structure OwnedRow where
  /-- The number of the domain. -/
  domainId : Int
  technology : OwnedTechnology
  deriving DecidableEq, Repr

/-- What is shown of a link and its technology. -/
def ownedRow (l : Link) (t : Technology) : OwnedRow where
  domainId := l.domainId
  technology := {
    name := t.name
    category := t.category
    isPremium := some t.isPremium
    description := t.description
    spend := l.spend
    subdomain := l.subdomain
    firstIdentified := l.firstIdentified
    lastIdentified := l.lastIdentified
    firstDetected := l.firstDetected
    lastDetected := l.lastDetected }

/-- Whether a row comes before another or at the same place: by domain, then by technology. -/
def OwnedRow.before (a b : OwnedRow) : Bool :=
  match compare a.domainId b.domainId with
  | .lt => true
  | .gt => false
  | .eq => compare a.technology.name b.technology.name != .gt

/-- The technologies of the domains of some numbers, in order. -/
def ownedRows (db : Database) (ids : List Int) : List OwnedRow :=
  ((db.links.filter fun l => ids.contains l.domainId).filterMap fun l =>
    (technologyOf db l).map (ownedRow l)).mergeSort OwnedRow.before

/-- The technologies of one domain among those of several. -/
def technologiesIn (rows : List OwnedRow) (id : Int) : List OwnedTechnology :=
  (rows.filter fun r => r.domainId == id).map (·.technology)

/-- The columns that the statement for technologies names, in the order in which they are looked
up. -/
def ownedColumns : List Column :=
  [.ofLink .domainId, .ofTechnology .name, .ofTechnology .category, .ofTechnology .isPremium,
    .ofTechnology .description, .ofLink .spend, .ofLink .subdomain, .ofLink .firstIdentified,
    .ofLink .lastIdentified, .ofLink .firstDetected, .ofLink .lastDetected, .ofLink .technologyId,
    .ofTechnology .id]

/-- Asks the store for the technologies of the domains of some numbers, each of which is bound to
the statement. Their number is looked at first, then the names, and then each of them. -/
def loadTechnologies (db : Database) (ids : List Int) : Except RunError (List OwnedRow) :=
  if db.platform.variableLimit < ids.length then .error (.store .tooManyVariables)
  else
    match db.lacks? [.links, .technologies] (qualifiedColumns ownedColumns) with
    | some e => .error (.store e)
    | none => if ids.all fits then .ok (ownedRows db ids) else .error .overflow

/-- Why the profiles of a page cannot be shown. -/
inductive EnrichmentError where
  /-- The store does not give the technologies. -/
  | run (e : RunError)
  /-- A stored collection has items of the wrong kind. -/
  | badProfile (faults : List Fault)
  /-- A stored collection is nested beyond the limit; the flag says whether in an object. -/
  | tooDeep (inObject : Bool)

/-- The stored collections of a domain. -/
def storedCollections (d : Domain) : Json :=
  .obj [("social_links", .ofText? d.socialLinks), ("emails", .ofText? d.emails),
    ("phones", .ofText? d.phones), ("people", .ofText? d.people)]

/-- The profile of a domain that uses some technologies. -/
def profileOf (r : Json.Reader) (d : Domain) (owned : List OwnedTechnology) :
    Checked DomainProfile :=
  let texts (name : String) (cell : Option String) :=
    (readTexts r (.ofText? cell)).within (.key name)
  ((((Checked.accept fun socialLinks emails phones people =>
    { id := d.id, domain := d.domain, companyName := d.companyName, category := d.category,
      country := d.country, state := d.state, city := d.city, zipCode := d.zipCode,
      socialLinks, emails, phones, people, createdAt := some d.createdAt,
      updatedAt := some d.updatedAt, technologies := owned, summary := summarize owned }).both
    (texts "social_links" d.socialLinks)).both (texts "emails" d.emails)).both
    (texts "phones" d.phones)).both ((readPeople r (.ofText? d.people)).within (.key "people"))

/-- The profile of a domain, or why it cannot be shown. -/
def profile (r : Json.Reader) (d : Domain) (owned : List OwnedTechnology) :
    Except EnrichmentError DomainProfile :=
  match DomainProfile.nestingFault? r (storedCollections d) with
  | some inObject => .error (.tooDeep inObject)
  | none =>
    match profileOf r d owned with
    | .accept p => .ok p
    | .reject faults => .error (.badProfile faults)

/-- The record of technologies that were loaded. -/
def loadedRecord (pageSize : Nat) : Log.Record where
  level := .debug
  logger := "domain_search.services.search.enrichment"
  message := "Loaded technologies for result page"
  fields := [("step", .str "enrich"), ("page_size", .int pageSize)]

/-- The profiles of a page of domains, in order; nothing is asked of the store for an empty page. -/
def profiles (db : Database) (page : List Domain) :
    Log.Traced EnrichmentError (List DomainProfile) :=
  if page.isEmpty then .ofExcept (.ok [])
  else
    (Log.Traced.statement ((loadTechnologies db (page.map (·.id))).mapError .run)).andThen
      fun rows =>
        (Log.Traced.log (loadedRecord page.length)).andThen fun _ =>
          .ofExcept (page.mapM fun d => profile db.platform.reader d (technologiesIn rows d.id))

end TechCatalog.Search
