import TechCatalog.Request.Scalar

/-!
# Filters

A filter says which values of one attribute a caller wants. `TextFilter` compares text,
`ListFilter` names values to accept, to refuse and to require together, `Range` bounds a number, and
`CategoryFilter` asks for a technology of a category, perhaps with bounds on how many of them a
domain has. Each comes with a reader that reports faults and with `dump`, which writes it back.
-/

namespace TechCatalog.Request

/-- How a text filter compares. -/
inductive MatchType where
  /-- The whole text. -/
  | exact
  /-- Any part of the text. -/
  | contains
  /-- The beginning of the text. -/
  | startsWith
  /-- The end of the text. -/
  | endsWith
  deriving DecidableEq, Repr

/-- The words for the ways to compare. -/
def MatchType.words : List (String × MatchType) :=
  [("exact", .exact), ("contains", .contains), ("startsWith", .startsWith), ("endsWith", .endsWith)]

/-- The word for a way to compare. -/
def MatchType.word : MatchType → String
  | .exact => "exact"
  | .contains => "contains"
  | .startsWith => "startsWith"
  | .endsWith => "endsWith"

/-- Asks for text that equals or holds a value. -/
structure TextFilter where
  /-- The text asked for. -/
  value : String
  /-- How it is compared. -/
  matchType : MatchType := .contains
  /-- Whether letter case counts. -/
  caseSensitive : Bool := false
  deriving DecidableEq, Repr

/-- Reads a text filter. The value must not be blank; it keeps its surrounding blanks. -/
def TextFilter.read (origin : Origin) : Json → Checked TextFilter :=
  readForm origin "StringFilter" fun o =>
    let value := (Key.only "value").required (fun v =>
      (readText v).require (fun s => !Text.allBlank s) "value must not be blank") o
    ((value.map TextFilter.mk).both
      ((Key.mk "matchType" "match_type").optional .contains (readWord MatchType.words) o)).both
      ((Key.mk "caseSensitive" "case_sensitive").optional false readBool o)

/-- Writes a text filter. -/
def TextFilter.dump (f : TextFilter) : Json :=
  .obj [("value", .str f.value), ("matchType", .str f.matchType.word),
    ("caseSensitive", .bool f.caseSensitive)]

/-- Asks for an attribute by lists of its values. -/
structure ListFilter where
  /-- Accept any of these. -/
  included : Option (List String) := none
  /-- Refuse each of these. -/
  excluded : Option (List String) := none
  /-- Ask for all of these together, where an attribute has many values. -/
  required : Option (List String) := none
  deriving DecidableEq, Repr

/-- The values of a list that may be absent. -/
def valuesOf (xs : Option (List String)) : List String :=
  xs.getD []

/-- Reads a list filter. -/
def ListFilter.read (origin : Origin) : Json → Checked ListFilter :=
  readForm origin "LogicalFilter" fun o =>
    let texts := nullable (readTuple readText)
    ((((Key.only "include").optional none texts o).map ListFilter.mk).both
      ((Key.only "exclude").optional none texts o)).both
      ((Key.mk "requireAll" "require_all").optional none texts o)

/-- A list of texts, or null. -/
def dumpTexts? : Option (List String) → Json
  | some xs => .ofTexts xs
  | none => .null

/-- Writes a list filter. -/
def ListFilter.dump (f : ListFilter) : Json :=
  .obj [("include", dumpTexts? f.included), ("exclude", dumpTexts? f.excluded),
    ("requireAll", dumpTexts? f.required)]

/-- A list filter is active when it names at least one value. -/
def ListFilter.isActive (f : ListFilter) : Bool :=
  !(valuesOf f.included).isEmpty || !(valuesOf f.excluded).isEmpty || !(valuesOf f.required).isEmpty

/-- Bounds on a number, both of which may be absent. -/
structure Range (α : Type) where
  /-- The lower bound. -/
  min : Option α := none
  /-- The upper bound. -/
  max : Option α := none
  /-- Whether the bounds themselves are accepted. -/
  inclusive : Bool := true
  deriving DecidableEq, Repr

/-- A range is active when it has a bound. -/
def Range.isActive {α : Type} (r : Range α) : Bool :=
  r.min.isSome || r.max.isSome

/-- Whether the bounds are in order; a bound that is absent is never out of order. -/
def Range.inOrder {α : Type} (above : α → α → Bool) (r : Range α) : Bool :=
  match r.min, r.max with
  | some lo, some hi => !above lo hi
  | _, _ => true

/-- What is said of bounds that are not in order. -/
def rangeRule : String := "min must be less than or equal to max"

/-- Reads the members of a range. -/
def Range.readMembers {α : Type} (read : Json → Checked α) (above : α → α → Bool)
    (o : Json.Members) : Checked (Range α) :=
  (((((Key.only "min").optional none (nullable read) o).map Range.mk).both
    ((Key.only "max").optional none (nullable read) o)).both
    ((Key.only "inclusive").optional true readBool o)).require (Range.inOrder above) rangeRule

/-- Bounds on an amount. -/
abbrev AmountRange := Range Float

/-- Bounds on a count. -/
abbrev CountRange := Range Int

/-- Reads bounds on an amount. No bound is above NaN, and NaN is above no bound. -/
def AmountRange.read (origin : Origin) : Json → Checked AmountRange :=
  readForm origin "RangeFilter" (Range.readMembers readNumber fun x y => Decimal.below y x)

/-- Reads bounds on a count, which must not be negative. -/
def CountRange.read (origin : Origin) : Json → Checked CountRange :=
  readForm origin "CountRangeFilter"
    (Range.readMembers (atLeast 0 readInteger) fun x y => decide (y < x))

/-- Writes a range. -/
def Range.dump {α : Type} (write : α → Json) (r : Range α) : Json :=
  .obj [("min", (r.min.map write).getD .null), ("max", (r.max.map write).getD .null),
    ("inclusive", .bool r.inclusive)]

/-- How an entry of a list of category filters combines with the others. -/
inductive Operator where
  /-- Together with the others. -/
  | and
  /-- As an alternative; one such entry makes alternatives of the whole list. -/
  | or
  /-- Negated. -/
  | not
  deriving DecidableEq, Repr

/-- The words for the operators. -/
def Operator.words : List (String × Operator) :=
  [("AND", .and), ("OR", .or), ("NOT", .not)]

/-- The word for an operator. -/
def Operator.word : Operator → String
  | .and => "AND"
  | .or => "OR"
  | .not => "NOT"

/-- Asks for a technology of a category. -/
structure CategoryFilter where
  category : String
  /-- The least number of technologies of the category. -/
  minCount : Option Int := none
  /-- The greatest number of technologies of the category. -/
  maxCount : Option Int := none
  /-- How the entry combines with others. -/
  operator : Operator := .and
  deriving DecidableEq, Repr

/-- Whether the bounds on the number of technologies are in order. -/
def CategoryFilter.inOrder (f : CategoryFilter) : Bool :=
  match f.minCount, f.maxCount with
  | some lo, some hi => lo ≤ hi
  | _, _ => true

/-- Whether the number of technologies is bounded. -/
def CategoryFilter.isCounted (f : CategoryFilter) : Bool :=
  f.minCount.isSome || f.maxCount.isSome

/-- Reads a category filter. The category loses its surrounding blanks and must not be empty. -/
def CategoryFilter.read (origin : Origin) : Json → Checked CategoryFilter :=
  readForm origin "TechnologyCategoryFilter" fun o =>
    let category := (Key.only "category").required (fun v =>
      ((readText v).map Text.strip).require (fun s => s ≠ "") "category must not be empty") o
    let count := nullable (atLeast 0 readInteger)
    ((((category.map CategoryFilter.mk).both
      ((Key.mk "minCount" "min_count").optional none count o)).both
      ((Key.mk "maxCount" "max_count").optional none count o)).both
      ((Key.only "operator").optional .and (readWord Operator.words) o)).require
      CategoryFilter.inOrder "minCount must be less than or equal to maxCount"

/-- Writes a category filter. -/
def CategoryFilter.dump (f : CategoryFilter) : Json :=
  .obj [("category", .str f.category), ("minCount", .ofInt? f.minCount),
    ("maxCount", .ofInt? f.maxCount), ("operator", .str f.operator.word)]

end TechCatalog.Request
