/-!
# Tables and columns

The store has four tables: the domains, the technologies, the links that say which domain uses which
technology, and one row of statistics per domain. Each table has a type of columns of its own;
`Column` is a column of any of them.
-/

namespace TechCatalog.Store

/-- The tables. -/
inductive Table where
  /-- One row per domain. -/
  | domains
  /-- One row per technology. -/
  | technologies
  /-- One row per technology of a domain. -/
  | links
  /-- One row of statistics per domain. -/
  | stats
  deriving DecidableEq, Repr

/-- The name of a table. -/
def Table.name : Table → String
  | .domains => "domains"
  | .technologies => "technologies"
  | .links => "domain_technologies"
  | .stats => "domain_stats"

/-- All tables. -/
def Table.all : List Table := [.domains, .technologies, .links, .stats]

/-- The table of a name. -/
def Table.ofName? (name : String) : Option Table :=
  Table.all.find? fun t => t.name == name

/-- The columns of the domains. -/
inductive DomainColumn where
  | id | domain | companyName | category | country | state | city | zipCode
  | socialLinks | emails | phones | people | createdAt | updatedAt
  deriving DecidableEq, Repr

/-- The name of a column of the domains. -/
def DomainColumn.name : DomainColumn → String
  | .id => "id"
  | .domain => "domain"
  | .companyName => "company_name"
  | .category => "category"
  | .country => "country"
  | .state => "state"
  | .city => "city"
  | .zipCode => "zip_code"
  | .socialLinks => "social_links"
  | .emails => "emails"
  | .phones => "phones"
  | .people => "people"
  | .createdAt => "created_at"
  | .updatedAt => "updated_at"

/-- The columns of the domains, in order. -/
def DomainColumn.all : List DomainColumn :=
  [.id, .domain, .companyName, .category, .country, .state, .city, .zipCode, .socialLinks, .emails,
    .phones, .people, .createdAt, .updatedAt]

/-- The columns of the technologies. -/
inductive TechnologyColumn where
  | id | name | category | isPremium | description | parent | link | trendsLink | subCategories
  | firstAdded | ticker | exchange | publicCompanyType | createdAt | updatedAt
  deriving DecidableEq, Repr

/-- The name of a column of the technologies. -/
def TechnologyColumn.label : TechnologyColumn → String
  | .id => "id"
  | .name => "name"
  | .category => "category"
  | .isPremium => "is_premium"
  | .description => "description"
  | .parent => "parent"
  | .link => "link"
  | .trendsLink => "trends_link"
  | .subCategories => "sub_categories"
  | .firstAdded => "first_added"
  | .ticker => "ticker"
  | .exchange => "exchange"
  | .publicCompanyType => "public_company_type"
  | .createdAt => "created_at"
  | .updatedAt => "updated_at"

/-- The columns of the technologies, in order. -/
def TechnologyColumn.all : List TechnologyColumn :=
  [.id, .name, .category, .isPremium, .description, .parent, .link, .trendsLink, .subCategories,
    .firstAdded, .ticker, .exchange, .publicCompanyType, .createdAt, .updatedAt]

/-- The columns of the links. -/
inductive LinkColumn where
  | id | domainId | domainName | technologyId | technologyName | spend | subdomain
  | firstIdentified | lastIdentified | firstDetected | lastDetected | createdAt | updatedAt
  deriving DecidableEq, Repr

/-- The name of a column of the links. -/
def LinkColumn.name : LinkColumn → String
  | .id => "id"
  | .domainId => "domain_id"
  | .domainName => "domain_name"
  | .technologyId => "technology_id"
  | .technologyName => "technology_name"
  | .spend => "spend"
  | .subdomain => "subdomain"
  | .firstIdentified => "first_identified"
  | .lastIdentified => "last_identified"
  | .firstDetected => "first_detected"
  | .lastDetected => "last_detected"
  | .createdAt => "created_at"
  | .updatedAt => "updated_at"

/-- The columns of the links, in order. -/
def LinkColumn.all : List LinkColumn :=
  [.id, .domainId, .domainName, .technologyId, .technologyName, .spend, .subdomain,
    .firstIdentified, .lastIdentified, .firstDetected, .lastDetected, .createdAt, .updatedAt]

/-- The columns of the statistics. -/
inductive StatsColumn where
  | id | domainId | totalTechnologies | technologiesByCategory | totalSpend | createdAt | updatedAt
  deriving DecidableEq, Repr

/-- The name of a column of the statistics. -/
def StatsColumn.name : StatsColumn → String
  | .id => "id"
  | .domainId => "domain_id"
  | .totalTechnologies => "total_technologies"
  | .technologiesByCategory => "technologies_by_category"
  | .totalSpend => "total_spend"
  | .createdAt => "created_at"
  | .updatedAt => "updated_at"

/-- The columns of the statistics, in order. -/
def StatsColumn.all : List StatsColumn :=
  [.id, .domainId, .totalTechnologies, .technologiesByCategory, .totalSpend, .createdAt, .updatedAt]

/-- A column of any table. -/
inductive Column where
  | ofDomain (c : DomainColumn)
  | ofTechnology (c : TechnologyColumn)
  | ofLink (c : LinkColumn)
  | ofStats (c : StatsColumn)
  deriving DecidableEq, Repr

/-- The table of a column. -/
def Column.table : Column → Table
  | .ofDomain _ => .domains
  | .ofTechnology _ => .technologies
  | .ofLink _ => .links
  | .ofStats _ => .stats

/-- The name of a column inside its table. -/
def Column.name : Column → String
  | .ofDomain c => c.name
  | .ofTechnology c => c.label
  | .ofLink c => c.name
  | .ofStats c => c.name

/-- The columns of a table, in order. -/
def Table.columns : Table → List Column
  | .domains => DomainColumn.all.map .ofDomain
  | .technologies => TechnologyColumn.all.map .ofTechnology
  | .links => LinkColumn.all.map .ofLink
  | .stats => StatsColumn.all.map .ofStats

/-- The name of a column with its table. -/
def Column.qualified (c : Column) : String :=
  c.table.name ++ "." ++ c.name

/-- The column of a table that has this name. -/
def Table.column? (t : Table) (name : String) : Option Column :=
  t.columns.find? fun c => c.name == name

/-- The column of a qualified name. -/
def Column.ofName? (name : String) : Option Column :=
  (Table.all.flatMap Table.columns).find? fun c => c.qualified == name

end TechCatalog.Store
