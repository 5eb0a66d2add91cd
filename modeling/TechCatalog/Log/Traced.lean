import TechCatalog.Log.Record

/-!
# Work that leaves a trace

`Traced ε α` is the outcome of work on the store: a result or an error, the records that were
logged on the way, and the number of statements that were sent. `Traced.andThen` goes on after a
success and keeps the trace of both parts; after an error nothing more is done.
-/

namespace TechCatalog.Log

/-- The outcome of work on the store. -/
structure Traced (ε α : Type) where
  /-- What came of it. -/
  result : Except ε α
  /-- The records that were logged, in order. -/
  records : List Record := []
  /-- The number of statements that were sent to the store. -/
  statements : Nat := 0

namespace Traced

variable {ε δ α β : Type}

/-- A result that leaves no trace. -/
def ofExcept (r : Except ε α) : Traced ε α := { result := r }

/-- The outcome of a single statement. -/
def statement (r : Except ε α) : Traced ε α := { result := r, statements := 1 }

/-- Logs a record. -/
def log (r : Record) : Traced ε Unit := { result := .ok (), records := [r] }

/-- Goes on with a result. -/
def andThen (x : Traced ε α) (next : α → Traced ε β) : Traced ε β :=
  match x.result with
  | .error e => { result := .error e, records := x.records, statements := x.statements }
  | .ok a =>
    let y := next a
    { result := y.result
      records := x.records ++ y.records
      statements := x.statements + y.statements }

/-- Applies a function to the result. -/
def map (f : α → β) (x : Traced ε α) : Traced ε β :=
  { x with result := x.result.map f }

/-- Turns the error of failed work into another, and logs what `report` makes of it. -/
def onError (x : Traced ε α) (wrap : ε → δ) (report : ε → List Record) : Traced δ α :=
  match x.result with
  | .ok a => { result := .ok a, records := x.records, statements := x.statements }
  | .error e =>
    { result := .error (wrap e), records := x.records ++ report e, statements := x.statements }

end Traced

end TechCatalog.Log
