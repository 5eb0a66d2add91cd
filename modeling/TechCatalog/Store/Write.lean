import TechCatalog.Store.Database

/-!
# Writing rows

Rows are inserted one by one, changed and deleted by name. A write that breaks a constraint is
rejected: an empty cell where none may be, then a broken rule, then a second row with the same
number or the same unique values. Links find their two ends by name, and are not checked against
them afterwards; nothing is deleted along with a row that others refer to.
-/

namespace TechCatalog.Store

/-- Entries for some columns of a row. -/
abbrev Draft (γ : Type) := List (γ × Entry)

/-- The columns that a draft mentions. -/
def Draft.columns {γ : Type} (draft : Draft γ) : List γ :=
  List.map Prod.fst draft

/-- The number that a new row gets: one more than the greatest so far. -/
def nextId (ids : List Int) : Int :=
  ids.foldl max 0 + 1

/-- The column of the first entry that is empty although the column must not be; columns that the
draft does not mention are empty unless they are among `given`. -/
def emptyNeeded {γ : Type} [BEq γ] (needed given : List γ) (draft : Draft γ) : Option γ :=
  needed.find? fun c =>
    match draft.lookup c with
    | some .empty => true
    | some _ => false
    | none => !given.contains c

/-- What keeps rows from being written to a table: it does not exist, or else it lacks one of these
columns. -/
def Database.rowObstacle? (db : Database) (t : Table) (columns : List Column) : Option StoreError :=
  (db.lacks? [t] []).or <|
    (columns.find? db.droppedColumns.contains).map fun c => .noColumnIn t.name c.name

/-- Refuses to go on if there is a reason. -/
def refuseFor : Option StoreError → Except RunError Unit
  | some e => .error (.store e)
  | none => .ok ()

/-- An entry that there is room for. -/
def Entry.fits : Entry → Bool
  | .int i => Store.fits i
  | _ => true

/-- Rejects a draft with a number that there is no room for. -/
def needFit {γ : Type} (draft : Draft γ) : Except RunError Unit :=
  if draft.all fun e => e.2.fits then .ok () else .error .overflow

/-- Rejects a draft that leaves a needed cell empty. -/
def needCells {γ : Type} [BEq γ] (column : γ → Column) (needed given : List γ) (draft : Draft γ) :
    Except RunError Unit :=
  refuseFor ((emptyNeeded needed given draft).map fun c => .emptyCell (column c).qualified)

/-- Rejects a row that agrees with another in columns that must be unique. -/
def needUnique (taken : Bool) (columns : List Column) : Except RunError Unit :=
  refuseFor (if taken then some (.notUnique (columns.map Column.qualified)) else none)

/-- Rejects a technology with an unknown premium flag. -/
def needPremiumFlag (t : Technology) : Except RunError Unit :=
  refuseFor (if premiumFlags.contains t.isPremium then none else some (.brokenRule premiumRule))

/-- The moments of writing, which are filled in where a draft does not give them. -/
def DomainColumn.filled : List DomainColumn := [.createdAt, .updatedAt]

/-- Inserts a domain. -/
def Database.insertDomain (db : Database) (draft : Draft DomainColumn) :
    Except RunError Database := do
  refuseFor (db.rowObstacle? .domains Table.domains.columns)
  needFit draft
  needCells .ofDomain DomainColumn.needed DomainColumn.filled draft
  let start : Domain := { id := nextId (db.domains.map (·.id)) }
  let row := draft.foldl (fun d e => d.set e.2 e.1) start
  needUnique (db.domains.any fun d => d.id == row.id) [.ofDomain .id]
  needUnique (db.domains.any fun d => d.domain == row.domain) [.ofDomain .domain]
  return { db with domains := db.domains ++ [row] }

/-- Inserts a technology. -/
def Database.insertTechnology (db : Database) (draft : Draft TechnologyColumn) :
    Except RunError Database := do
  refuseFor (db.rowObstacle? .technologies Table.technologies.columns)
  needFit draft
  needCells .ofTechnology TechnologyColumn.needed [.isPremium, .createdAt, .updatedAt] draft
  let start : Technology := { id := nextId (db.technologies.map (·.id)) }
  let row := draft.foldl (fun t e => t.set e.2 e.1) start
  needPremiumFlag row
  needUnique (db.technologies.any fun t => t.id == row.id) [.ofTechnology .id]
  needUnique (db.technologies.any fun t => t.name == row.name) [.ofTechnology .name]
  return { db with technologies := db.technologies ++ [row] }

/-- Why a row could not be entered. -/
inductive EntryError where
  /-- The row is not written. -/
  | run (e : RunError)
  /-- The row refers to something that has this name, and nothing has. -/
  | unknownName (name : String)

/-- What came of writing, as part of entering rows. -/
def entered {α : Type} (r : Except RunError α) : Except EntryError α :=
  r.mapError .run

/-- The number of the domain of a name. -/
def Database.domainId (db : Database) (name : String) : Except EntryError Int := do
  entered (refuseFor (db.lacks? [.domains] []))
  match db.domains.find? fun d => d.domain == name with
  | some d => return d.id
  | none => .error (.unknownName name)

/-- The number of the technology of a name. -/
def Database.technologyId (db : Database) (name : String) : Except EntryError Int := do
  entered (refuseFor (db.lacks? [.technologies] []))
  match db.technologies.find? fun t => t.name == name with
  | some t => return t.id
  | none => .error (.unknownName name)

/-- Inserts a link between the domain and the technology of two names. -/
def Database.insertLink (db : Database) (domain technology : String) (draft : Draft LinkColumn) :
    Except EntryError Database := do
  let domainId ← db.domainId domain
  let technologyId ← db.technologyId technology
  entered do
    refuseFor (db.rowObstacle? .links Table.links.columns)
    needFit draft
    needCells .ofLink LinkColumn.needed LinkColumn.needed draft
    let start : Link := {
      id := nextId (db.links.map (·.id)), domainId, technologyId, domainName := domain,
      technologyName := technology }
    let row := draft.foldl (fun l e => l.set e.2 e.1) start
    needUnique (db.links.any fun l => l.id == row.id) [.ofLink .id]
    needUnique
      (db.links.any fun l => l.domainId == row.domainId && l.technologyId == row.technologyId)
      [.ofLink .domainId, .ofLink .technologyId]
    return { db with links := db.links ++ [row] }

/-- Inserts a row of statistics for the domain of a name. -/
def Database.insertStats (db : Database) (domain : String) (draft : Draft StatsColumn) :
    Except EntryError Database := do
  let domainId ← db.domainId domain
  entered do
    refuseFor (db.rowObstacle? .stats Table.stats.columns)
    needFit draft
    needCells .ofStats StatsColumn.needed StatsColumn.needed draft
    let start : Stats := { id := nextId (db.stats.map (·.id)), domainId }
    let row := draft.foldl (fun s e => s.set e.2 e.1) start
    needUnique (db.stats.any fun s => s.id == row.id) [.ofStats .id]
    needUnique (db.stats.any fun s => s.domainId == row.domainId) [.ofStats .domainId]
    return { db with stats := db.stats ++ [row] }

/-- Rows that are entered together, technologies first. -/
structure Batch where
  technologies : List (Draft TechnologyColumn) := []
  domains : List (Draft DomainColumn) := []
  /-- Links, each with the names of its domain and its technology. -/
  links : List (String × String × Draft LinkColumn) := []
  /-- Statistics, each with the name of its domain. -/
  stats : List (String × Draft StatsColumn) := []

/-- Enters all rows of a batch or none. -/
def Database.enter (db : Database) (b : Batch) : Except EntryError Database := do
  let db ← entered (b.technologies.foldlM Database.insertTechnology db)
  let db ← entered (b.domains.foldlM Database.insertDomain db)
  let db ← b.links.foldlM (fun db l => db.insertLink l.1 l.2.1 l.2.2) db
  b.stats.foldlM (fun db s => db.insertStats s.1 s.2) db

/-- Changes the rows that satisfy a test one after the other; a changed row must not clash with any
other row. -/
def changeRows {ρ : Type} (test : ρ → Bool) (change : ρ → ρ)
    (check : List ρ → ρ → Except RunError Unit) (done : List ρ) :
    List ρ → Except RunError (List ρ × Nat)
  | [] => .ok (done.reverse, 0)
  | r :: rest =>
    if test r then do
      check (done ++ rest) (change r)
      let (rows, n) ← changeRows test change check (change r :: done) rest
      return (rows, n + 1)
    else changeRows test change check (r :: done) rest

/-- Changes the domain of a name. The moment of the change is the usual stamp unless it is given. -/
def Database.updateDomain (db : Database) (name : String) (draft : Draft DomainColumn) :
    Except RunError (Database × Nat) := do
  refuseFor (db.lacks? [.domains] [])
  let draft : Draft DomainColumn := if (draft.lookup .updatedAt).isSome then draft
    else draft ++ [(.updatedAt, .text stamp.write)]
  match (draft.columns ++ [DomainColumn.domain]).find? fun c =>
      db.droppedColumns.contains (.ofDomain c) with
  | some c => .error (.store (.noColumn c.name))
  | none =>
    needFit draft
    if db.domains.any fun d => d.domain == name then
      needCells .ofDomain DomainColumn.needed DomainColumn.needed draft
    let (rows, n) ← changeRows (fun d : Domain => d.domain == name)
      (fun d : Domain => draft.foldl (fun d e => d.set e.2 e.1) d)
      (fun (others : List Domain) (d : Domain) => do
        needUnique (others.any fun o => o.id == d.id) [.ofDomain .id]
        needUnique (others.any fun o => o.domain == d.domain) [.ofDomain .domain])
      [] db.domains
    return ({ db with domains := rows }, n)

/-- Changes the technology of a name. -/
def Database.updateTechnology (db : Database) (name : String) (draft : Draft TechnologyColumn) :
    Except RunError (Database × Nat) := do
  refuseFor (db.lacks? [.technologies] [])
  let draft : Draft TechnologyColumn := if (draft.lookup .updatedAt).isSome then draft
    else draft ++ [(.updatedAt, .text stamp.write)]
  match (draft.columns ++ [TechnologyColumn.name]).find? fun c =>
      db.droppedColumns.contains (.ofTechnology c) with
  | some c => .error (.store (.noColumn c.label))
  | none =>
    needFit draft
    if db.technologies.any fun t => t.name == name then
      needCells .ofTechnology TechnologyColumn.needed TechnologyColumn.needed draft
    let (rows, n) ← changeRows (fun t : Technology => t.name == name)
      (fun t : Technology => draft.foldl (fun t e => t.set e.2 e.1) t)
      (fun (others : List Technology) (t : Technology) => do
        needPremiumFlag t
        needUnique (others.any fun o => o.id == t.id) [.ofTechnology .id]
        needUnique (others.any fun o => o.name == t.name) [.ofTechnology .name])
      [] db.technologies
    return ({ db with technologies := rows }, n)

/-- Changes what is spent on the link between a domain and a technology, found by their names. -/
def Database.setSpend (db : Database) (domain technology : String) (spend : Entry) :
    Except RunError (Database × Nat) := do
  refuseFor (db.lacks? [.links] [])
  match [LinkColumn.spend, .updatedAt, .domainName, .technologyName].find? fun c =>
      db.droppedColumns.contains (.ofLink c) with
  | some c =>
    let name :=
      if c = .domainName ∨ c = .technologyName then (Column.ofLink c).qualified else c.name
    .error (.store (.noColumn name))
  | none =>
    needFit [(LinkColumn.spend, spend)]
    let (rows, n) ← changeRows
      (fun l : Link => l.domainName == domain && l.technologyName == technology)
      (fun l : Link => l.set spend .spend) (fun _ _ => .ok ()) [] db.links
    return ({ db with links := rows }, n)

/-- What a deletion is about. -/
inductive DeleteKind where
  /-- The domain of a name. -/
  | domain
  /-- The technology of a name. -/
  | technology
  /-- The links of the domain of a name. -/
  | domainLinks
  /-- The links of the technology of a name. -/
  | technologyLinks
  deriving DecidableEq, Repr

/-- The column that names what is deleted. -/
def DeleteKind.column : DeleteKind → Column
  | .domain => .ofDomain .domain
  | .technology => .ofTechnology .name
  | .domainLinks => .ofLink .domainName
  | .technologyLinks => .ofLink .technologyName

/-- Deletes rows by name. -/
def Database.delete (db : Database) (kind : DeleteKind) (name : String) :
    Except StoreError (Database × Nat) :=
  match db.lacks? [kind.column.table] (qualifiedColumns [kind.column]) with
  | some e => .error e
  | none =>
    match kind with
    | .domain =>
      let rows := db.domains.filter fun d => d.domain != name
      .ok ({ db with domains := rows }, db.domains.length - rows.length)
    | .technology =>
      let rows := db.technologies.filter fun t => t.name != name
      .ok ({ db with technologies := rows }, db.technologies.length - rows.length)
    | .domainLinks =>
      let rows := db.links.filter fun l => l.domainName != name
      .ok ({ db with links := rows }, db.links.length - rows.length)
    | .technologyLinks =>
      let rows := db.links.filter fun l => l.technologyName != name
      .ok ({ db with links := rows }, db.links.length - rows.length)

/-- Drops a table with its rows. -/
def Database.dropTable (db : Database) (name : String) : Except StoreError Database :=
  match Table.ofName? name with
  | none => .error (.noTable name)
  | some t =>
    match db.lacks? [t] [] with
    | some e => .error e
    | none =>
      let db := { db with
        droppedTables := t :: db.droppedTables
        droppedColumns := db.droppedColumns.filter fun c => c.table ≠ t }
      .ok (match t with
        | .domains => { db with domains := [] }
        | .technologies => { db with technologies := [] }
        | .links => { db with links := [] }
        | .stats => { db with stats := [] })

/-- What keeps a column from being dropped: the table is not there, or the column is not, or else
the column numbers the rows or is needed by a rule or an index. -/
def Database.dropObstacle? (db : Database) (t : Table) (column : String) : Option StoreError :=
  (db.lacks? [t] []).or <|
    match (t.column? column).filter fun c => !db.droppedColumns.contains c with
    | none => some (.noColumn ("\"" ++ column ++ "\""))
    | some c =>
      if c.isKey then some (.keyColumn column)
      else if (t.uniques.any fun u => u.1.contains c) || (t.checks.any fun k => k.2 == c) then
        some (.neededColumn ("table " ++ t.name) column)
      else if t.indexed.contains c then some (.neededColumn ("index " ++ c.indexName) column)
      else none

/-- Drops a column that no key, index or rule needs. -/
def Database.dropColumn (db : Database) (table column : String) : Except StoreError Database :=
  match Table.ofName? table with
  | none => .error (.noTable table)
  | some t =>
    match db.dropObstacle? t column with
    | some e => .error e
    | none =>
      .ok { db with droppedColumns := (t.column? column).toList ++ db.droppedColumns }

end TechCatalog.Store
