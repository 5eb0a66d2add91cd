import TechCatalog.Store.Platform
import TechCatalog.Store.Schema

/-!
# The store

`Database` holds the rows of the four tables, in the order they were written, which tables and
columns were dropped, and what the store runs on. `StoreError` lists why the store rejects a
statement, and `Database.lacks?` finds the first table, or else the first column, that a statement
needs and the store does not have.
-/

namespace TechCatalog.Store

/-- The contents of the store. -/
structure Database where
  domains : List Domain := []
  technologies : List Technology := []
  links : List Link := []
  stats : List Stats := []
  /-- The tables that do not exist. -/
  droppedTables : List Table := []
  /-- The columns that do not exist although their tables do. -/
  droppedColumns : List Column := []
  /-- What the store runs on. -/
  platform : Platform := {}

/-- A store without any table. -/
def Database.bare : Database := { droppedTables := Table.all }

/-- Why the store rejects a statement. -/
inductive StoreError where
  /-- There is no such table. -/
  | noTable (name : String)
  /-- There is no such column. -/
  | noColumn (name : String)
  /-- A table that should be created exists. -/
  | tableExists (name : String)
  /-- A row to be written names a column that its table does not have. -/
  | noColumnIn (table column : String)
  /-- Another row has the same values in columns that must be unique. -/
  | notUnique (columns : List String)
  /-- A column that must not be empty would be. -/
  | emptyCell (column : String)
  /-- A row would break a rule. -/
  | brokenRule (name : String)
  /-- A pattern is too long to be evaluated. -/
  | patternTooLong
  /-- A statement binds too many values. -/
  | tooManyVariables
  /-- The column that numbers the rows cannot be dropped. -/
  | keyColumn (column : String)
  /-- An index or a rule of the table needs the column that should be dropped. -/
  | neededColumn (place column : String)
  deriving DecidableEq, Repr

/-- The two classes of errors of the store. -/
inductive ErrorClass where
  /-- A statement cannot be run. -/
  | operational
  /-- A row breaks a constraint. -/
  | integrity
  deriving DecidableEq, Repr

/-- The name of a class of errors. -/
def ErrorClass.name : ErrorClass → String
  | .operational => "OperationalError"
  | .integrity => "IntegrityError"

/-- The class of an error. -/
def StoreError.errorClass : StoreError → ErrorClass
  | .notUnique _ | .emptyCell _ | .brokenRule _ => .integrity
  | _ => .operational

/-- What the store says of an error. -/
def StoreError.text : StoreError → String
  | .noTable name => "no such table: " ++ name
  | .noColumn name => "no such column: " ++ name
  | .tableExists name => "table " ++ name ++ " already exists"
  | .noColumnIn table column => "table " ++ table ++ " has no column named " ++ column
  | .notUnique columns => "UNIQUE constraint failed: " ++ ", ".intercalate columns
  | .emptyCell column => "NOT NULL constraint failed: " ++ column
  | .brokenRule name => "CHECK constraint failed: " ++ name
  | .patternTooLong => "LIKE or GLOB pattern too complex"
  | .tooManyVariables => "too many SQL variables"
  | .keyColumn column => "cannot drop PRIMARY KEY column: \"" ++ column ++ "\""
  | .neededColumn place column =>
    "error in " ++ place ++ " after drop column: no such column: " ++ column

/-- The message of an error, with its class. -/
def StoreError.message (e : StoreError) : String :=
  "(sqlite3." ++ e.errorClass.name ++ ") " ++ e.text

/-- The first of some tables that does not exist, or else the first of some columns, each given with
the name it is known by. -/
def Database.lacks? (db : Database) (tables : List Table) (columns : List (String × Column)) :
    Option StoreError :=
  match tables.find? db.droppedTables.contains with
  | some t => some (.noTable t.name)
  | none =>
    (columns.find? fun c => db.droppedColumns.contains c.2).map fun c => .noColumn c.1

/-- Columns under their qualified names. -/
def qualifiedColumns (cs : List Column) : List (String × Column) :=
  cs.map fun c => (c.qualified, c)

/-- Why a statement does not run to its end. -/
inductive RunError where
  /-- The store rejects it. -/
  | store (e : StoreError)
  /-- A number does not fit the 64 bits that the store has for it. -/
  | overflow
  deriving DecidableEq, Repr

/-- What is said of a number that does not fit. -/
def overflowMessage : String := "Python int too large to convert to SQLite INTEGER"

/-- A number that fits 64 bits with a sign. -/
def fits (i : Int) : Bool :=
  -(Decimal.twoPow 63 : Int) ≤ i && i < (Decimal.twoPow 63 : Int)

end TechCatalog.Store
