import TechCatalog.Query.Condition
import TechCatalog.Text.Like

/-!
# What conditions mean

Tests are true, false or unknown: whatever looks at an empty cell is unknown. `Clause.eval` decides
a clause on one row of the joined tables, and `joinedRows` lists these rows: every domain beside
each of its links, technologies and statistics, or beside nothing where it has none.
-/

namespace TechCatalog.Query

open Store

/-- True, false or unknown. -/
abbrev Truth := Option Bool

/-- False if one of two is false, true if both are true. -/
def Truth.and : Truth → Truth → Truth
  | some false, _ => some false
  | _, some false => some false
  | some true, some true => some true
  | _, _ => none

/-- True if one of two is true, false if both are false. -/
def Truth.or : Truth → Truth → Truth
  | some true, _ => some true
  | _, some true => some true
  | some false, some false => some false
  | _, _ => none

/-- The opposite; the unknown stays unknown. -/
def Truth.not : Truth → Truth
  | some b => some !b
  | none => none

/-- All of several. -/
def Truth.all (ts : List Truth) : Truth :=
  ts.foldr Truth.and (some true)

/-- Any of several. -/
def Truth.any (ts : List Truth) : Truth :=
  ts.foldr Truth.or (some false)

/-- A domain beside what is joined to it. -/
structure JoinedRow where
  domain : Domain
  /-- A link of the domain, if it has one and links are joined. -/
  link : Option Link := none
  /-- The technology of the link, if it exists and technologies are joined. -/
  technology : Option Technology := none
  /-- The statistics of the domain, if they exist and are joined. -/
  stats : Option Stats := none

/-- The cell of a joined row in a column. -/
def JoinedRow.get (r : JoinedRow) : Column → Option Value
  | .ofDomain c => r.domain.get c
  | .ofTechnology c => r.technology.bind fun t => t.get c
  | .ofLink c => r.link.bind fun l => l.get c
  | .ofStats c => r.stats.bind fun s => s.get c

/-- The value of an operand on a row. -/
def Operand.get (r : JoinedRow) : Operand → Option Value
  | .column c => r.get c
  | .lowered c =>
    match r.get c with
    | some (.text s) => some (.text (Text.asciiLower s))
    | v => v

/-- The technology that a link refers to. -/
def technologyOf (db : Database) (l : Link) : Option Technology :=
  db.technologies.find? fun t => t.id == l.technologyId

/-- The links of the domain of a number. -/
def linksOf (db : Database) (domainId : Int) : List Link :=
  db.links.filter fun l => l.domainId == domainId

/-- The number of links of a domain to technologies of a category. -/
def countInCategory (db : Database) (category : String) (domainId : Int) : Nat :=
  ((linksOf db domainId).filter fun l =>
    (technologyOf db l).any fun t => t.category == some category).length

/-- Whether a domain is an owner. -/
def Owners.contains (db : Database) (domainId : Int) : Owners → Bool
  | .ofAny names => (linksOf db domainId).any fun l => names.contains l.technologyName
  | .ofAll names =>
    let owned := ((linksOf db domainId).map (·.technologyName)).filter names.contains
    !owned.isEmpty && owned.eraseDups.length == names.length
  | .ofCategory category bound =>
    let n := countInCategory db category domainId
    0 < n && bound.holds n

/-- Decides a test on a row. -/
def Test.eval (db : Database) (r : JoinedRow) : Test → Truth
  | .compare x op v => (x.get r).map fun w => op.holds (w.order v)
  | .like x pattern =>
    match x.get r with
    | some (.text s) => some (Text.like pattern s)
    | _ => none
  | .among c texts =>
    match r.get c with
    | some (.text s) => some (texts.contains s)
    | _ => none
  | .owner o => some (o.contains db r.domain.id)
  | .notOwner o => some (!o.contains db r.domain.id)

/-- Decides a term on a row. -/
def Term.eval (db : Database) (r : JoinedRow) : Term → Truth
  | .holds tests => Truth.all (tests.map (·.eval db r))
  | .fails tests => (Truth.all (tests.map (·.eval db r))).not

/-- Decides a clause on a row. -/
def Clause.eval (db : Database) (r : JoinedRow) : Clause → Truth
  | .all terms => Truth.all (terms.map (·.eval db r))
  | .any terms => Truth.any (terms.map (·.eval db r))

/-- Whether a row satisfies every clause. -/
def satisfies (db : Database) (clauses : List Clause) (r : JoinedRow) : Bool :=
  clauses.all fun c => c.eval db r == some true

/-- The tables that can be joined to the domains, in the order in which they are joined. -/
inductive JoinTable where
  /-- The links of the domain. -/
  | links
  /-- The technologies of the links. -/
  | technologies
  /-- The statistics of the domain. -/
  | stats
  deriving DecidableEq, Repr

/-- The table that is joined. -/
def JoinTable.table : JoinTable → Table
  | .links => .links
  | .technologies => .technologies
  | .stats => .stats

/-- What a list holds, or nothing once if it holds nothing: the right side of an outer join. -/
def orNothing {α : Type} (xs : List α) : List (Option α) :=
  if xs.isEmpty then [none] else xs.map some

/-- The rows that arise from a row by joining one more table to it. -/
def JoinTable.extend (db : Database) (j : JoinTable) (r : JoinedRow) : List JoinedRow :=
  match j with
  | .links =>
    (orNothing (linksOf db r.domain.id)).map fun l => { r with link := l }
  | .technologies =>
    (orNothing (db.technologies.filter fun t => r.link.any fun l => l.technologyId == t.id)).map
      fun t => { r with technology := t }
  | .stats =>
    (orNothing (db.stats.filter fun s => s.domainId == r.domain.id)).map
      fun s => { r with stats := s }

/-- The rows of the domains with tables joined to them in turn. -/
def joinedRows (db : Database) (joins : List JoinTable) : List JoinedRow :=
  joins.foldl (fun rows j => rows.flatMap (j.extend db)) (db.domains.map fun d => { domain := d })

end TechCatalog.Query
