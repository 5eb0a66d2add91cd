import TechCatalog.Request.Scalar

/-!
# The technologies of a domain

`OwnedTechnology` is what is shown of one technology that a domain uses, and `Summary` what is shown
of all of them together: how many there are, what is spent on them, and how many there are of each
category. `summarize` computes a summary from the technologies themselves.
-/

namespace TechCatalog.Profile

open Request

/-- A technology as it is used by one domain. -/
structure OwnedTechnology where
  name : String
  category : Option String := none
  /-- Whether the technology is sold at a premium. -/
  isPremium : Option String := none
  /-- What the technology is. -/
  description : Option String := none
  /-- What the domain spends on it. -/
  spend : Option Float := none
  /-- Whether it was found on a subdomain. -/
  subdomain : Option Bool := none
  /-- When it was first identified. -/
  firstIdentified : Option Calendar.Moment := none
  /-- When it was last identified. -/
  lastIdentified : Option Calendar.Moment := none
  /-- When it was first detected. -/
  firstDetected : Option Calendar.Moment := none
  /-- When it was last detected. -/
  lastDetected : Option Calendar.Moment := none
  deriving DecidableEq, Repr

/-- A moment, or null where there is none. -/
def dumpMoment? : Option Calendar.Moment → Json
  | some t => .str t.write
  | none => .null

/-- A truth value, or null where there is none. -/
def dumpBool? : Option Bool → Json
  | some b => .bool b
  | none => .null

/-- Reads a technology. -/
def OwnedTechnology.read (origin : Origin) : Json → Checked OwnedTechnology :=
  readForm origin "TechnologyDetails" fun o =>
    let text (name : String) := (Key.only name).optional none (nullable readText) o
    let moment (name : String) := (Key.only name).optional none (nullable readMoment) o
    (((((((((((Key.only "name").required readText o).map OwnedTechnology.mk).both
      (text "category")).both (text "is_premium")).both (text "description")).both
      ((Key.only "spend").optional none (nullable readNumber) o)).both
      ((Key.only "subdomain").optional none (nullable readBool) o)).both
      (moment "first_identified")).both (moment "last_identified")).both
      (moment "first_detected")).both (moment "last_detected")

/-- Writes a technology. -/
def OwnedTechnology.dump (t : OwnedTechnology) : Json :=
  .obj [("name", .str t.name), ("category", .ofText? t.category),
    ("is_premium", .ofText? t.isPremium), ("description", .ofText? t.description),
    ("spend", .ofFloat? t.spend), ("subdomain", dumpBool? t.subdomain),
    ("first_identified", dumpMoment? t.firstIdentified),
    ("last_identified", dumpMoment? t.lastIdentified),
    ("first_detected", dumpMoment? t.firstDetected),
    ("last_detected", dumpMoment? t.lastDetected)]

/-- The technologies of a domain in numbers. -/
structure Summary where
  /-- How many technologies there are. -/
  totalTechnologies : Int := 0
  /-- What is spent on all of them; where it was never computed, the integer zero is shown. -/
  totalSpend : Option Float := none
  /-- How many technologies there are of each category. -/
  categories : List (String × Int) := []
  deriving DecidableEq, Repr

/-- Reads a summary. -/
def Summary.read (origin : Origin) : Json → Checked Summary :=
  readForm origin "TechnologyStats" fun o =>
    ((((Key.only "total_technologies").optional 0 readInteger o).map Summary.mk).both
      ((Key.only "total_spend").optional none (fun v => (readNumber v).map some) o)).both
      ((Key.mk "technologyCategories" "technology_categories").optional [] (readMap readInteger) o)

/-- Writes a summary. -/
def Summary.dump (s : Summary) : Json :=
  .obj [("total_technologies", .int s.totalTechnologies),
    ("total_spend", match s.totalSpend with | some x => .num x | none => .int 0),
    ("technologyCategories", .obj (s.categories.map fun c => (c.1, .int c.2)))]

/-- Counts one more occurrence of a word; a word that is new comes last. -/
def countOne (word : String) : List (String × Int) → List (String × Int)
  | [] => [(word, 1)]
  | (w, n) :: rest => if w = word then (w, n + 1) :: rest else (w, n) :: countOne word rest

/-- How often each word occurs, in order of first occurrence. -/
def countEach (words : List String) : List (String × Int) :=
  words.foldl (fun counts w => countOne w counts) []

/-- The categories that a list of technologies names; an empty category is none. -/
def categoriesOf (ts : List OwnedTechnology) : List String :=
  ts.filterMap fun t => t.category.bind fun c => if c = "" then none else some c

/-- What is spent on a technology, where nothing known is nothing spent. -/
def OwnedTechnology.amount (t : OwnedTechnology) : Float :=
  t.spend.getD (Float.ofBits 0)

/-- The sum of amounts, added from left to right to zero. -/
def sumAmounts (xs : List Float) : Float :=
  xs.foldl (· + ·) (Float.ofBits 0)

/-- The summary of a list of technologies. -/
def summarize (ts : List OwnedTechnology) : Summary where
  totalTechnologies := ts.length
  totalSpend := some (sumAmounts (ts.map (·.amount)))
  categories := countEach (categoriesOf ts)

end TechCatalog.Profile
