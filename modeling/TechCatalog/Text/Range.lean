/-!
# Tables of code points

A property of characters is stored as the list of the ranges that have it, and a case mapping as
the list of runs of code points that lie the same distance from their image.
`inRanges` and `CaseRun.find?` are how the tables are read.
-/

namespace TechCatalog.Text

/-- Whether a code point lies in one of the closed ranges. -/
def inRanges (table : List (Nat × Nat)) (n : Nat) : Bool :=
  table.any fun r => decide (r.1 ≤ n) && decide (n ≤ r.2)

/-- Every `step`-th code point from `first` to `last`, each `shift` away from its image. -/
structure CaseRun where
  /-- The first code point of the run. -/
  first : Nat
  /-- The last code point of the run. -/
  last : Nat
  /-- The distance between neighbours in the run. -/
  step : Nat
  /-- What leads from a code point to its image. -/
  shift : Int

/-- The image of a code point that belongs to the run. -/
def CaseRun.image? (r : CaseRun) (n : Nat) : Option Nat :=
  if r.first ≤ n ∧ n ≤ r.last ∧ (n - r.first) % r.step = 0 then some (n + r.shift).toNat else none

/-- The image of a code point under the first run it belongs to. -/
def CaseRun.find? (table : List CaseRun) (n : Nat) : Option Nat :=
  table.findSome? fun r => r.image? n

end TechCatalog.Text
