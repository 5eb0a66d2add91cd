import TechCatalog.Store.Column
import TechCatalog.Store.Value

/-!
# Rows

A row is a structure with one field per column. `get` reads a cell by its column and `set` writes an
entry into it; the columns that must not be empty are listed by `needed`, and writing nothing to one
of them leaves it as it was.
-/

namespace TechCatalog.Store

open Calendar (Moment)

/-- The moment rows are stamped with unless another is given. -/
def stamp : Moment := { year := 2024, month := 1, day := 1 }

/-- A domain. -/
structure Domain where
  id : Int
  domain : String := ""
  companyName : Option String := none
  category : Option String := none
  country : Option String := none
  state : Option String := none
  city : Option String := none
  zipCode : Option String := none
  socialLinks : Option String := none
  emails : Option String := none
  phones : Option String := none
  people : Option String := none
  createdAt : Moment := stamp
  updatedAt : Moment := stamp
  deriving DecidableEq, Repr

/-- The cell of a domain in a column. -/
def Domain.get (d : Domain) : DomainColumn → Option Value
  | .id => some (.int d.id)
  | .domain => some (.text d.domain)
  | .companyName => d.companyName.map .text
  | .category => d.category.map .text
  | .country => d.country.map .text
  | .state => d.state.map .text
  | .city => d.city.map .text
  | .zipCode => d.zipCode.map .text
  | .socialLinks => d.socialLinks.map .text
  | .emails => d.emails.map .text
  | .phones => d.phones.map .text
  | .people => d.people.map .text
  | .createdAt => some (.moment d.createdAt)
  | .updatedAt => some (.moment d.updatedAt)

/-- Writes an entry into a cell of a domain. -/
def Domain.set (d : Domain) (e : Entry) : DomainColumn → Domain
  | .id => { d with id := e.int?.getD d.id }
  | .domain => { d with domain := e.text?.getD d.domain }
  | .companyName => { d with companyName := e.text? }
  | .category => { d with category := e.text? }
  | .country => { d with country := e.text? }
  | .state => { d with state := e.text? }
  | .city => { d with city := e.text? }
  | .zipCode => { d with zipCode := e.text? }
  | .socialLinks => { d with socialLinks := e.text? }
  | .emails => { d with emails := e.text? }
  | .phones => { d with phones := e.text? }
  | .people => { d with people := e.text? }
  | .createdAt => { d with createdAt := e.moment?.getD d.createdAt }
  | .updatedAt => { d with updatedAt := e.moment?.getD d.updatedAt }

/-- The columns of the domains that must not be empty. -/
def DomainColumn.needed : List DomainColumn := [.domain, .createdAt, .updatedAt]

/-- A technology. -/
structure Technology where
  id : Int
  name : String := ""
  category : Option String := none
  isPremium : String := "No"
  description : Option String := none
  parent : Option String := none
  link : Option String := none
  trendsLink : Option String := none
  subCategories : Option String := none
  firstAdded : Option Moment := none
  ticker : Option String := none
  exchange : Option String := none
  publicCompanyType : Option String := none
  createdAt : Moment := stamp
  updatedAt : Moment := stamp
  deriving DecidableEq, Repr

/-- The cell of a technology in a column. -/
def Technology.get (t : Technology) : TechnologyColumn → Option Value
  | .id => some (.int t.id)
  | .name => some (.text t.name)
  | .category => t.category.map .text
  | .isPremium => some (.text t.isPremium)
  | .description => t.description.map .text
  | .parent => t.parent.map .text
  | .link => t.link.map .text
  | .trendsLink => t.trendsLink.map .text
  | .subCategories => t.subCategories.map .text
  | .firstAdded => t.firstAdded.map .moment
  | .ticker => t.ticker.map .text
  | .exchange => t.exchange.map .text
  | .publicCompanyType => t.publicCompanyType.map .text
  | .createdAt => some (.moment t.createdAt)
  | .updatedAt => some (.moment t.updatedAt)

/-- Writes an entry into a cell of a technology. -/
def Technology.set (t : Technology) (e : Entry) : TechnologyColumn → Technology
  | .id => { t with id := e.int?.getD t.id }
  | .name => { t with name := e.text?.getD t.name }
  | .category => { t with category := e.text? }
  | .isPremium => { t with isPremium := e.text?.getD t.isPremium }
  | .description => { t with description := e.text? }
  | .parent => { t with parent := e.text? }
  | .link => { t with link := e.text? }
  | .trendsLink => { t with trendsLink := e.text? }
  | .subCategories => { t with subCategories := e.text? }
  | .firstAdded => { t with firstAdded := e.moment? }
  | .ticker => { t with ticker := e.text? }
  | .exchange => { t with exchange := e.text? }
  | .publicCompanyType => { t with publicCompanyType := e.text? }
  | .createdAt => { t with createdAt := e.moment?.getD t.createdAt }
  | .updatedAt => { t with updatedAt := e.moment?.getD t.updatedAt }

/-- The columns of the technologies that must not be empty. -/
def TechnologyColumn.needed : List TechnologyColumn := [.name, .isPremium, .createdAt, .updatedAt]

/-- The premium flag of a technology that is sold at a premium. -/
def premiumYes : String := "Yes"

/-- The premium flag of a technology that is not. -/
def premiumNo : String := "No"

/-- The premium flag of a technology of which it is not known. -/
def premiumMaybe : String := "Maybe"

/-- The values a premium flag may have. -/
def premiumFlags : List String := [premiumYes, premiumNo, premiumMaybe]

/-- A technology that a domain uses. The names of both stand beside their numbers. -/
structure Link where
  id : Int
  domainId : Int := 0
  domainName : String := ""
  technologyId : Int := 0
  technologyName : String := ""
  spend : Option Float := none
  subdomain : Option Bool := none
  firstIdentified : Option Moment := none
  lastIdentified : Option Moment := none
  firstDetected : Option Moment := none
  lastDetected : Option Moment := none
  createdAt : Moment := stamp
  updatedAt : Moment := stamp
  deriving DecidableEq, Repr

/-- The cell of a link in a column. -/
def Link.get (l : Link) : LinkColumn → Option Value
  | .id => some (.int l.id)
  | .domainId => some (.int l.domainId)
  | .domainName => some (.text l.domainName)
  | .technologyId => some (.int l.technologyId)
  | .technologyName => some (.text l.technologyName)
  | .spend => l.spend.map .real
  | .subdomain => l.subdomain.map fun b => .int (if b then 1 else 0)
  | .firstIdentified => l.firstIdentified.map .moment
  | .lastIdentified => l.lastIdentified.map .moment
  | .firstDetected => l.firstDetected.map .moment
  | .lastDetected => l.lastDetected.map .moment
  | .createdAt => some (.moment l.createdAt)
  | .updatedAt => some (.moment l.updatedAt)

/-- Writes an entry into a cell of a link. -/
def Link.set (l : Link) (e : Entry) : LinkColumn → Link
  | .id => { l with id := e.int?.getD l.id }
  | .domainId => { l with domainId := e.int?.getD l.domainId }
  | .domainName => { l with domainName := e.text?.getD l.domainName }
  | .technologyId => { l with technologyId := e.int?.getD l.technologyId }
  | .technologyName => { l with technologyName := e.text?.getD l.technologyName }
  | .spend => { l with spend := e.real? }
  | .subdomain => { l with subdomain := e.flag? }
  | .firstIdentified => { l with firstIdentified := e.moment? }
  | .lastIdentified => { l with lastIdentified := e.moment? }
  | .firstDetected => { l with firstDetected := e.moment? }
  | .lastDetected => { l with lastDetected := e.moment? }
  | .createdAt => { l with createdAt := e.moment?.getD l.createdAt }
  | .updatedAt => { l with updatedAt := e.moment?.getD l.updatedAt }

/-- The columns of the links that must not be empty. -/
def LinkColumn.needed : List LinkColumn :=
  [.domainId, .domainName, .technologyId, .technologyName, .createdAt, .updatedAt]

/-- The statistics of a domain, as they were when they were last computed. -/
structure Stats where
  id : Int
  domainId : Int := 0
  totalTechnologies : Int := 0
  technologiesByCategory : Json := .null
  totalSpend : Float := Float.ofBits 0
  createdAt : Moment := stamp
  updatedAt : Moment := stamp

/-- The cell of a row of statistics in a column; documents are not compared. -/
def Stats.get (s : Stats) : StatsColumn → Option Value
  | .id => some (.int s.id)
  | .domainId => some (.int s.domainId)
  | .totalTechnologies => some (.int s.totalTechnologies)
  | .technologiesByCategory => none
  | .totalSpend => some (.real s.totalSpend)
  | .createdAt => some (.moment s.createdAt)
  | .updatedAt => some (.moment s.updatedAt)

/-- Writes an entry into a cell of a row of statistics. -/
def Stats.set (s : Stats) (e : Entry) : StatsColumn → Stats
  | .id => { s with id := e.int?.getD s.id }
  | .domainId => { s with domainId := e.int?.getD s.domainId }
  | .totalTechnologies => { s with totalTechnologies := e.int?.getD s.totalTechnologies }
  | .technologiesByCategory => { s with technologiesByCategory := e.document?.getD .null }
  | .totalSpend => { s with totalSpend := e.real?.getD s.totalSpend }
  | .createdAt => { s with createdAt := e.moment?.getD s.createdAt }
  | .updatedAt => { s with updatedAt := e.moment?.getD s.updatedAt }

/-- The columns of the statistics that must not be empty. -/
def StatsColumn.needed : List StatsColumn :=
  [.domainId, .totalTechnologies, .totalSpend, .createdAt, .updatedAt]

end TechCatalog.Store
