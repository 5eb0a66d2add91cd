import TechCatalog.Query.Condition

/-!
# Statements as text

A statement is written as a list of pieces: plain words, the names of tables and columns, and places
for values, which are bound to the statement and never become part of its text. `Statement.text`
shows a place as a question mark, and `Statement.values` lists what is bound, in order. Tables that
a condition looks at apart from the joined row get names of their own, numbered in the order in
which they appear.
-/

namespace TechCatalog.Query

open Store

/-- A part of a statement. -/
inductive Piece where
  /-- Words of the language of statements. -/
  | words (s : String)
  /-- A table, perhaps under another name. -/
  | table (t : Table) (name : Option String)
  /-- A column of the table known by a name. -/
  | column (owner : String) (c : Column)
  /-- A place for one value, with the name its numbered places share. -/
  | place (label : String) (v : Value)
  /-- Places for a list of values, with the name their numbered places share. -/
  | places (label : String) (vs : List Value)
  deriving DecidableEq, Repr

/-- A statement or a part of one. -/
abbrev Statement := List Piece

/-- The text of a piece. -/
def Piece.text : Piece → String
  | .words s => s
  | .table t none => t.name
  | .table t (some name) => t.name ++ " AS " ++ name
  | .column owner c => owner ++ "." ++ c.name
  | .place _ _ => "?"
  | .places _ vs => ", ".intercalate (vs.map fun _ => "?")

/-- The values bound by a piece. -/
def Piece.values : Piece → List Value
  | .place _ v => [v]
  | .places _ vs => vs
  | _ => []

/-- The text of a statement. -/
def Statement.text (s : Statement) : String :=
  String.join (s.map Piece.text)

/-- The values bound to a statement, in the order of their places. -/
def Statement.values (s : Statement) : List Value :=
  s.flatMap Piece.values

/-- The tables that a statement names. -/
def Statement.tables (s : Statement) : List Table :=
  s.filterMap fun
    | .table t _ => some t
    | _ => none

/-- The columns that a statement names, each as it is named. -/
def Statement.columns (s : Statement) : List (String × Column) :=
  s.filterMap fun
    | .column owner c => some (owner ++ "." ++ c.name, c)
    | _ => none

/-- What is bound at one place or at a list of places. -/
inductive Binding where
  | one (v : Value)
  | many (vs : List Value)
  deriving DecidableEq, Repr

/-- What a statement binds, each under the name that its numbered places share. -/
def Statement.bindings (s : Statement) : List (String × Binding) :=
  s.filterMap fun
    | .place label v => some (label, .one v)
    | .places label vs => some (label, .many vs)
    | _ => none

/-- How many tables were given names of their own. -/
structure Numbering where
  /-- Names for links. -/
  links : Nat := 0
  /-- Names for technologies. -/
  technologies : Nat := 0
  deriving DecidableEq, Repr

/-- The name of a table with a number. -/
def numberedName (t : Table) (n : Nat) : String :=
  t.name ++ "_" ++ toString n

/-- A column under the name of its own table. -/
def Piece.ofColumn (c : Column) : Piece :=
  .column c.table.name c

/-- An operand. -/
def Operand.pieces : Operand → Statement
  | .column c => [.ofColumn c]
  | .lowered c => [.words "lower(", .ofColumn c, .words ")"]

/-- The name that places compared with an operand share. -/
def Operand.label : Operand → String
  | .column c => c.name
  | .lowered _ => "lower"

/-- The sign of a comparison. -/
def Comparison.sign : Comparison → String
  | .equal => " = "
  | .unequal => " != "
  | .less => " < "
  | .atMost => " <= "
  | .greater => " > "
  | .atLeast => " >= "

/-- A bound on the number of rows of a group. -/
def CountBound.pieces : CountBound → Statement
  | .between lo hi =>
    [.words "count(*) BETWEEN ", .place "count" (.int lo), .words " AND ", .place "count" (.int hi)]
  | .atLeast n => [.words "count(*) >= ", .place "count" (.int n)]
  | .atMost n => [.words "count(*) <= ", .place "count" (.int n)]

/-- The numbers of owners, found through links, and through technologies where a category is asked
for. -/
def Owners.pieces (o : Owners) (n : Numbering) : Statement × Numbering :=
  let link := numberedName .links (n.links + 1)
  let technology := numberedName .technologies (n.technologies + 1)
  let id : Piece := .column link (.ofLink .domainId)
  let name : Piece := .column link (.ofLink .technologyName)
  let source : Statement := [.words " FROM ", .table .links (some link)]
  match o with
  | .ofAny names =>
    ([.words "SELECT DISTINCT ", id] ++ source ++
      [.words " WHERE ", name, .words " IN (", .places "technology_name" (names.map .text),
        .words ")"],
      { n with links := n.links + 1 })
  | .ofAll names =>
    ([.words "SELECT ", id] ++ source ++
      [.words " WHERE ", name, .words " IN (", .places "technology_name" (names.map .text),
        .words ") GROUP BY ", id, .words " HAVING count(DISTINCT ", name, .words ") = ",
        .place "count" (.int names.length)],
      { n with links := n.links + 1 })
  | .ofCategory category bound =>
    ([.words "SELECT ", id] ++ source ++
      [.words " JOIN ", .table .technologies (some technology), .words " ON ",
        .column link (.ofLink .technologyId), .words " = ",
        .column technology (.ofTechnology .id), .words " WHERE ",
        .column technology (.ofTechnology .category), .words " = ",
        .place "category" (.text category), .words " GROUP BY ", id, .words " HAVING "] ++
      bound.pieces,
      { links := n.links + 1, technologies := n.technologies + 1 })

/-- The number of the domain of a row. -/
def domainIdPiece : Piece := .ofColumn (.ofDomain .id)

/-- A test. -/
def Test.pieces (t : Test) (n : Numbering) : Statement × Numbering :=
  match t with
  | .compare x op v => (x.pieces ++ [.words op.sign, .place x.label v], n)
  | .like x pattern =>
    (x.pieces ++ [.words " LIKE ", .place x.label (.text pattern), .words " ESCAPE '\\'"], n)
  | .among c texts =>
    ([.ofColumn c, .words " IN (", .places c.name (texts.map .text), .words ")"], n)
  | .owner o =>
    let (inner, n) := o.pieces n
    ([domainIdPiece, .words " IN ("] ++ inner ++ [.words ")"], n)
  | .notOwner o =>
    let (inner, n) := o.pieces n
    ([.words "(", domainIdPiece, .words " NOT IN ("] ++ inner ++ [.words "))"], n)

/-- Writes several parts in turn with a word between them, passing the numbering along. -/
def joinPieces {α : Type} (write : α → Numbering → Statement × Numbering) (word : String) :
    List α → Numbering → Statement × Numbering
  | [], n => ([], n)
  | [a], n => write a n
  | a :: rest, n =>
    let (first, n) := write a n
    let (others, n) := joinPieces write word rest n
    (first ++ .words word :: others, n)

/-- A term. -/
def Term.pieces (t : Term) (n : Numbering) : Statement × Numbering :=
  match t with
  | .holds tests => joinPieces Test.pieces " AND " tests n
  | .fails tests =>
    let (inner, n) := joinPieces Test.pieces " AND " tests n
    ([.words "NOT ("] ++ inner ++ [.words ")"], n)

/-- A clause standing alone. -/
def Clause.pieces (c : Clause) (n : Numbering) : Statement × Numbering :=
  match c with
  | .all terms => joinPieces Term.pieces " AND " terms n
  | .any terms => joinPieces Term.pieces " OR " terms n

/-- A clause among others: two or more alternatives are put in parentheses. -/
def Clause.piecesAmong (c : Clause) (n : Numbering) : Statement × Numbering :=
  match c with
  | .any (_ :: _ :: _) =>
    let (inner, n) := c.pieces n
    ([.words "("] ++ inner ++ [.words ")"], n)
  | _ => c.pieces n

/-- The conditions of a statement. -/
def wherePieces : List Clause → Statement
  | [] => []
  | [c] => .words " WHERE " :: (c.pieces {}).1
  | cs => .words " WHERE " :: (joinPieces Clause.piecesAmong " AND " cs {}).1

/-- A clause written as a statement of its own. -/
def Clause.statement (c : Clause) : Statement :=
  (c.pieces {}).1

end TechCatalog.Query
