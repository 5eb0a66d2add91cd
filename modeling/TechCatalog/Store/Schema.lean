import TechCatalog.Store.Row

/-!
# The schema of the store

`Table.describe` gives the declaration of a table: its columns with their types, which columns must
be unique together, which are indexed, which rules rows must keep, and which tables they refer to.
`Migration` creates all tables in an empty store or drops them again.
-/

namespace TechCatalog.Store

/-- The declared type of a column. -/
inductive ColumnType where
  | integer
  /-- Text, perhaps with a declared length. -/
  | varchar (length : Option Nat)
  /-- Long text. -/
  | text
  | moment
  /-- Floating-point numbers. -/
  | real
  /-- Truth values. -/
  | flag
  | document
  deriving DecidableEq, Repr

/-- How a type is declared. -/
def ColumnType.declared : ColumnType → String
  | .integer => "INTEGER"
  | .varchar none => "VARCHAR"
  | .varchar (some n) => "VARCHAR(" ++ toString n ++ ")"
  | .text => "TEXT"
  | .moment => "DATETIME"
  | .real => "FLOAT"
  | .flag => "BOOLEAN"
  | .document => "JSON"

/-- The type of a column. -/
def Column.type : Column → ColumnType
  | .ofDomain c =>
    match c with
    | .id => .integer
    | .socialLinks | .emails | .phones | .people => .text
    | .createdAt | .updatedAt => .moment
    | _ => .varchar none
  | .ofTechnology c =>
    match c with
    | .id => .integer
    | .isPremium => .varchar (some 8)
    | .description | .subCategories => .text
    | .firstAdded | .createdAt | .updatedAt => .moment
    | _ => .varchar none
  | .ofLink c =>
    match c with
    | .id | .domainId | .technologyId => .integer
    | .domainName | .technologyName => .varchar none
    | .spend => .real
    | .subdomain => .flag
    | _ => .moment
  | .ofStats c =>
    match c with
    | .id | .domainId | .totalTechnologies => .integer
    | .technologiesByCategory => .document
    | .totalSpend => .real
    | _ => .moment

/-- The column that numbers the rows of its table. -/
def Column.isKey : Column → Bool
  | .ofDomain c => c = .id
  | .ofTechnology c => c = .id
  | .ofLink c => c = .id
  | .ofStats c => c = .id

/-- Whether a column may be empty. -/
def Column.nullable : Column → Bool
  | .ofDomain c => c ≠ .id && !DomainColumn.needed.contains c
  | .ofTechnology c => c ≠ .id && !TechnologyColumn.needed.contains c
  | .ofLink c => c ≠ .id && !LinkColumn.needed.contains c
  | .ofStats c => c ≠ .id && !StatsColumn.needed.contains c

/-- The sets of columns that must be unique, each perhaps with a name. -/
def Table.uniques : Table → List (List Column × Option String)
  | .domains => [([.ofDomain .domain], none)]
  | .technologies => [([.ofTechnology .name], none)]
  | .links => [([.ofLink .domainId, .ofLink .technologyId], some "uq_domain_technology")]
  | .stats => [([.ofStats .domainId], none)]

/-- The columns that have an index of their own. -/
def Table.indexed : Table → List Column
  | .domains => [.ofDomain .category, .ofDomain .country]
  | .technologies => [.ofTechnology .category]
  | .links => [.ofLink .domainId, .ofLink .technologyId, .ofLink .technologyName]
  | .stats => []

/-- The name of the index of a column. -/
def Column.indexName (c : Column) : String :=
  "ix_" ++ c.table.name ++ "_" ++ c.name

/-- The rule that premium flags keep. -/
def premiumRule : String := "ck_technologies_is_premium"

/-- The rules that the rows of a table keep, each with the column it is about. -/
def Table.checks : Table → List (String × Column)
  | .technologies => [(premiumRule, .ofTechnology .isPremium)]
  | _ => []

/-- The columns that refer to rows of other tables; they are deleted with them. -/
def Table.references : Table → List (Column × Table)
  | .links => [(.ofLink .domainId, .domains), (.ofLink .technologyId, .technologies)]
  | .stats => [(.ofStats .domainId, .domains)]
  | _ => []

/-- The creation and removal of all tables. -/
inductive Migration where
  /-- Creates the tables. -/
  | upgrade
  /-- Drops the tables. -/
  | downgrade
  deriving DecidableEq, Repr

/-- Why a migration could not run. -/
inductive MigrationError where
  /-- A table exists already. -/
  | exists (t : Table)
  /-- A table does not exist. -/
  | absent (t : Table)
  deriving DecidableEq, Repr

/-- The tables that exist after one migration. Tables are created starting from the domains and
dropped starting from the statistics. -/
def Migration.run (m : Migration) (tables : List Table) : Except MigrationError (List Table) :=
  match m with
  | .upgrade => if tables = [] then .ok Table.all else .error (.exists .domains)
  | .downgrade => if tables = [] then .error (.absent .stats) else .ok []

/-- The tables that exist after migrations in turn. -/
def Migration.runAll (ms : List Migration) (tables : List Table) :
    Except MigrationError (List Table) :=
  ms.foldlM (fun ts m => m.run ts) tables

end TechCatalog.Store
