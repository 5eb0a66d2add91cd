import TechCatalog.Query.Select
import TechCatalog.Text.Blank

/-!
# Lists of values to choose from

The values of a column are offered in a list, the most common first and equally common ones in
alphabetical order. Empty cells and empty texts are not offered. A list can be searched for values
that contain a text, and a part of it can be asked for; `rank` is the whole list, and `Source.list`
gives what a `Wanted` asks of it.
-/

namespace TechCatalog.Options

open Store Query

/-- What is asked of a list of values. -/
structure Wanted where
  /-- Only values that contain this text, blanks around it left out. -/
  search : Option String := none
  /-- The most values to give; without it all are given. -/
  limit : Option Int := none
  /-- How many values to leave out; it counts only along with a limit. -/
  offset : Int := 0
  deriving DecidableEq, Repr

/-- The length of a list of names unless another is asked for. -/
def usualLength : Int := 50

/-- The pattern of the values that are wanted, if they are searched. -/
def Wanted.pattern? (w : Wanted) : Option String :=
  match w.search.map Text.strip with
  | none | some "" => none
  | some s => some ("%" ++ Text.escapeLike s ++ "%")

/-- Whether a value is wanted. -/
def Wanted.accepts (w : Wanted) (value : String) : Bool :=
  w.pattern?.all fun pattern => Text.like pattern value

/-- The part of a list that is wanted. -/
def Wanted.part (w : Wanted) (values : List String) : List String :=
  match w.limit with
  | some limit => window limit w.offset values
  | none => values

/-- Where the values of a list come from. -/
inductive Source where
  /-- A column of the domains; every domain counts. -/
  | domains (c : DomainColumn)
  /-- The names of technologies; every link to the technology counts. -/
  | technologyNames
  /-- The categories of technologies; every technology counts. -/
  | technologyCategories
  deriving DecidableEq, Repr

/-- A value of a row and how much the row counts. -/
structure Offer where
  value : String
  /-- How much it counts. -/
  weight : Nat
  deriving DecidableEq, Repr

/-- The offer of a cell, if it holds a text that is not empty. -/
def offer? (cell : Option Value) (weight : Nat) : Option Offer :=
  match cell with
  | some (.text "") => none
  | some (.text s) => some ⟨s, weight⟩
  | _ => none

/-- The technologies beside their links: one row for every link to a technology, and one without a
link for a technology that has none. -/
def usageRows (db : Database) : List (Technology × Option Link) :=
  db.technologies.flatMap fun t =>
    (orNothing (db.links.filter fun l => l.technologyId == t.id)).map fun l => (t, l)

/-- The offers of the rows of a source. -/
def Source.offers (db : Database) : Source → List Offer
  | .domains c => db.domains.filterMap fun d => offer? (d.get c) 1
  | .technologyNames =>
    (usageRows db).filterMap fun r => offer? (r.1.get .name) (if r.2.isSome then 1 else 0)
  | .technologyCategories => db.technologies.filterMap fun t => offer? (t.get .category) 1

/-- How much a value counts in all. -/
def weightOf (offers : List Offer) (value : String) : Nat :=
  (offers.filter fun o => o.value == value).foldl (fun n o => n + o.weight) 0

/-- Whether a value comes before another or at the same place. -/
def comesBefore (offers : List Offer) (v w : String) : Bool :=
  match compare (weightOf offers w) (weightOf offers v) with
  | .lt => true
  | .gt => false
  | .eq => compare v w != .gt

/-- The values that are offered, each once, the weightiest first. -/
def rank (offers : List Offer) : List String :=
  ((offers.map (·.value)).eraseDups).mergeSort (comesBefore offers)

/-- The tables a source is read from. -/
def Source.tables : Source → List Table
  | .domains _ => [.domains]
  | .technologyNames => [.technologies, .links]
  | .technologyCategories => [.technologies]

/-- The columns a source is read from, in the order in which they are looked up. -/
def Source.columns : Source → List Column
  | .domains c => [.ofDomain c, .ofDomain .id]
  | .technologyNames =>
    [.ofTechnology .name, .ofLink .id, .ofTechnology .id, .ofLink .technologyId]
  | .technologyCategories => [.ofTechnology .category, .ofTechnology .id]

/-- Why a list cannot be read: a name that the store does not have, then a number that it has no
room for, then a pattern that it does not evaluate. -/
def Source.obstacle? (db : Database) (source : Source) (w : Wanted) : Option RunError :=
  match db.lacks? source.tables (qualifiedColumns source.columns) with
  | some e => some (.store e)
  | none =>
    if w.limit.any fun limit => !(fits limit && fits w.offset) then some .overflow
    else if w.limit != some 0 && w.pattern?.any Text.patternTooLong &&
        !(source.offers db).isEmpty then some (.store .patternTooLong)
    else none

/-- The values of a source that are wanted. -/
def Source.list (db : Database) (source : Source) (w : Wanted) :
    Except RunError (List String) :=
  match source.obstacle? db w with
  | some e => .error e
  | none => .ok (w.part (rank ((source.offers db).filter fun o => w.accepts o.value)))

end TechCatalog.Options
