import TechCatalog.Json.Reader
import TechCatalog.Store.Row

/-!
# Platforms

What a store answers is not settled by its contents alone. In which order it comes by the links of a
domain and how it adds what is spent on them, how large a statement may be, and how deeply a stored
text may be nested is up to what it runs on. A `Platform` is a choice of all these. The usual one
carries the rounding errors of a sum along and makes them good in the end.
-/

namespace TechCatalog.Store

/-- A sum so far, beside the rounding errors made on the way. -/
structure RunningSum where
  /-- The sum, rounded at every addition. -/
  sum : Float := Float.ofBits 0
  /-- The sum of the rounding errors. -/
  error : Float := Float.ofBits 0

/-- Adds an amount. What rounding takes away is found by taking the larger of the two amounts off
their sum again. -/
def RunningSum.add (s : RunningSum) (x : Float) : RunningSum :=
  let sum := s.sum + x
  let lost := if x.abs < s.sum.abs then (s.sum - sum) + x else (x - sum) + s.sum
  ⟨sum, s.error + lost⟩

/-- The sum with its rounding errors made good, unless they are out of range. -/
def RunningSum.total (s : RunningSum) : Float :=
  if Decimal.isFinite s.error then s.sum + s.error else s.sum

/-- The sum of amounts in a given order, with rounding errors made good. -/
def compensatedSum (xs : List Float) : Float :=
  (xs.foldl RunningSum.add {}).total

/-- What a store runs on. -/
structure Platform where
  /-- The sum of what is spent on some links, at least one amount being known. The platform chooses
  in which order it visits the links. -/
  sum : List Link → Float := fun links =>
    compensatedSum ((links.mergeSort fun a b => a.id ≤ b.id).filterMap (·.spend))
  /-- The most values that a statement may bind. -/
  variableLimit : Nat := 32766
  /-- The most parts of a condition that may stand inside each other. -/
  depthLimit : Nat := 1000
  /-- How stored texts are read. -/
  reader : Json.Reader := {}

end TechCatalog.Store
