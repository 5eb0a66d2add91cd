import TechCatalog.Query.Meaning
import TechCatalog.Query.Statement

/-!
# The two statements of a search

A `Selection` says which domains are wanted: the tables to join and the clauses to satisfy. From one
selection come two statements. `Selection.countStatement` counts its domains, and
`PageQuery.statement` asks for one page of them in order. `Selection.count` and `PageQuery.rows` say
what the two give.
-/

namespace TechCatalog.Query

open Store

/-- Which domains are wanted. -/
structure Selection where
  /-- The tables joined to the domains. -/
  joins : List JoinTable := []
  /-- The clauses a joined row must satisfy. -/
  clauses : List Clause := []
  deriving DecidableEq, Repr

/-- The two columns that agree in joined rows. -/
def JoinTable.condition : JoinTable → Column × Column
  | .links => (.ofDomain .id, .ofLink .domainId)
  | .technologies => (.ofLink .technologyId, .ofTechnology .id)
  | .stats => (.ofDomain .id, .ofStats .domainId)

/-- A join. -/
def JoinTable.pieces (j : JoinTable) : Statement :=
  [.words " LEFT OUTER JOIN ", .table j.table none, .words " ON ", .ofColumn j.condition.1,
    .words " = ", .ofColumn j.condition.2]

/-- Where the rows of a selection come from. -/
def Selection.fromPieces (s : Selection) : Statement :=
  .words " FROM " :: .table .domains none :: s.joins.flatMap JoinTable.pieces

/-- The part that both statements of a selection share. -/
def Selection.sharedPieces (s : Selection) : Statement :=
  s.fromPieces ++ wherePieces s.clauses

/-- What the counting statement begins with. -/
def countHead : Statement :=
  [.words "SELECT count(DISTINCT ", domainIdPiece, .words ") AS total"]

/-- The statement that counts the domains of a selection. -/
def Selection.countStatement (s : Selection) : Statement :=
  countHead ++ s.sharedPieces

/-- The joined rows that satisfy the clauses. -/
def Selection.rows (db : Database) (s : Selection) : List JoinedRow :=
  (joinedRows db s.joins).filter (satisfies db s.clauses)

/-- The number of domains of a selection. -/
def Selection.count (db : Database) (s : Selection) : Nat :=
  ((s.rows db).map (·.domain.id)).eraseDups.length

/-- A page of a selection in order. -/
structure PageQuery where
  /-- Which domains are wanted. -/
  selection : Selection
  /-- The column they are sorted by. -/
  sortColumn : Column
  /-- Whether the greatest come first. -/
  descending : Bool := false
  /-- The most domains to give. -/
  limit : Int
  /-- The number of domains to leave out. -/
  offset : Int
  deriving DecidableEq, Repr

/-- Names of columns with commas between them. -/
def columnPieces : List Column → Statement
  | [] => []
  | [c] => [.ofColumn c]
  | c :: rest => .ofColumn c :: .words ", " :: columnPieces rest

/-- The sort column where it belongs to the statistics; it is selected along with the domain. -/
def PageQuery.extraColumns (q : PageQuery) : List Column :=
  if q.sortColumn.table = .stats then [q.sortColumn] else []

/-- What the statement of a page selects. -/
def PageQuery.head (q : PageQuery) : Statement :=
  .words "SELECT DISTINCT " :: columnPieces (Table.domains.columns ++ q.extraColumns)

/-- The order of a page: the sort column, then the number of the domain. -/
def PageQuery.orderPieces (q : PageQuery) : List Statement :=
  [[.ofColumn q.sortColumn, .words (if q.descending then " DESC" else " ASC")],
    [domainIdPiece, .words " ASC"]]

/-- What follows the conditions of a page. -/
def PageQuery.tail (q : PageQuery) : Statement :=
  [.words " ORDER BY "] ++ List.flatten (q.orderPieces.intersperse [.words ", "]) ++
    [.words " LIMIT ", .place "param" (.int q.limit), .words " OFFSET ",
      .place "param" (.int q.offset)]

/-- The statement that asks for a page. -/
def PageQuery.statement (q : PageQuery) : Statement :=
  q.head ++ q.selection.sharedPieces ++ q.tail

/-- The pieces of a page's statement in the order in which its names are looked up: the order of
rows last. -/
def PageQuery.lookups (q : PageQuery) : Statement :=
  q.head ++ wherePieces q.selection.clauses ++ q.selection.fromPieces ++ q.tail

/-- What a page's statement gives for one joined row: the domain and the cell it is sorted by. -/
structure SortedRow where
  domain : Domain
  /-- The cell of the sort column. -/
  key : Option Value
  deriving DecidableEq, Repr

/-- Whether a row comes before another or at the same place. -/
def SortedRow.before (descending : Bool) (a b : SortedRow) : Bool :=
  let order := if descending then cellOrder b.key a.key else cellOrder a.key b.key
  match order with
  | .lt => true
  | .gt => false
  | .eq => a.domain.id ≤ b.domain.id

/-- Leaves out and keeps as many as asked; a negative number to keep keeps all, and a negative
number to leave out leaves out none. -/
def window {α : Type} (limit offset : Int) (xs : List α) : List α :=
  let rest := xs.drop offset.toNat
  if limit < 0 then rest else rest.take limit.toNat

/-- All rows of a page query in order, each once. -/
def PageQuery.sorted (db : Database) (q : PageQuery) : List SortedRow :=
  let rows := (q.selection.rows db).map fun r => SortedRow.mk r.domain (r.get q.sortColumn)
  rows.eraseDups.mergeSort (SortedRow.before q.descending)

/-- The rows of a page. -/
def PageQuery.rows (db : Database) (q : PageQuery) : List SortedRow :=
  window q.limit q.offset (q.sorted db)

/-- The pattern of a test that no row can be matched against. -/
def Test.tooLong : Test → Bool
  | .like _ pattern => Text.patternTooLong pattern
  | _ => false

/-- Whether deciding the clauses on a row comes to a pattern that is too long. Clauses are decided
in turn, and the first that is not true settles the matter. -/
def meetsLongPattern (db : Database) (r : JoinedRow) : List Clause → Bool
  | [] => false
  | c :: rest =>
    c.tests.any Test.tooLong || (c.eval db r == some true && meetsLongPattern db r rest)

/-- Why a statement over a selection does not run to its end: a name that the store does not have,
then a number that it has no room for, then a pattern that it does not evaluate. `lookups` are the
pieces of the statement in the order in which their names are looked up. The statement is taken to
be no larger than the platform allows, in the values that it binds and in the depth of its
conditions. -/
def Selection.obstacle? (db : Database) (s : Selection) (statement lookups : Statement) :
    Option RunError :=
  match db.lacks? statement.tables lookups.columns with
  | some e => some (.store e)
  | none =>
    if statement.values.any fun v => match v with | .int i => !fits i | _ => false then
      some .overflow
    else if (joinedRows db s.joins).any fun r => meetsLongPattern db r s.clauses then
      some (.store .patternTooLong)
    else none

/-- Counts the domains of a selection. -/
def Selection.runCount (db : Database) (s : Selection) : Except RunError Nat :=
  match s.obstacle? db s.countStatement
      (countHead ++ wherePieces s.clauses ++ s.fromPieces) with
  | some e => .error e
  | none => .ok (s.count db)

/-- Gives the domains of a page. -/
def PageQuery.run (db : Database) (q : PageQuery) : Except RunError (List Domain) :=
  match q.selection.obstacle? db q.statement q.lookups with
  | some e => .error e
  | none => .ok ((q.rows db).map (·.domain))

end TechCatalog.Query
