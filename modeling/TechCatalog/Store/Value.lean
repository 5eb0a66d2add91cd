import TechCatalog.Calendar.Reader
import TechCatalog.Json.Value

/-!
# Stored values

A cell of a table is empty or holds a value: text, an integer, a floating-point number, a truth
value, a moment or a document. `Value.order` is the order the store sorts by: text by code points,
numbers by size, moments in time. The values of one column are all of one kind, so the order between
kinds never shows.
-/

namespace TechCatalog.Store

/-- A value that can be compared. -/
inductive Value where
  | text (s : String)
  /-- An integer. -/
  | int (i : Int)
  /-- A floating-point number. -/
  | real (x : Float)
  | moment (t : Calendar.Moment)
  deriving DecidableEq, Repr

/-- The place of a kind of value among the kinds. -/
def Value.rank : Value → Nat
  | .int _ => 0
  | .real _ => 1
  | .moment _ => 2
  | .text _ => 3

/-- The order of two values. -/
def Value.order : Value → Value → Ordering
  | .text s, .text t => compare s t
  | .int i, .int j => compare i j
  | .real x, .real y => compare (Decimal.orderKey x) (Decimal.orderKey y)
  | .moment s, .moment t => compare s.orderKey t.orderKey
  | v, w => compare v.rank w.rank

/-- The order of two cells; an empty cell comes before every value. -/
def cellOrder : Option Value → Option Value → Ordering
  | none, none => .eq
  | none, some _ => .lt
  | some _, none => .gt
  | some v, some w => v.order w

/-- What is offered to a cell when a row is written. -/
inductive Entry where
  /-- Nothing. -/
  | empty
  | text (s : String)
  /-- An integer. -/
  | int (i : Int)
  /-- A floating-point number. -/
  | real (x : Float)
  /-- A truth value. -/
  | flag (b : Bool)
  | document (v : Json)

/-- The text an entry leaves in a cell of text; numbers are written out. -/
def Entry.text? : Entry → Option String
  | .text s => some s
  | .int i => some (toString i)
  | .real x => some (Decimal.write Decimal.plainStyle x)
  | .flag b => some (if b then "1" else "0")
  | _ => none

/-- The integer an entry leaves in a cell of integers. -/
def Entry.int? : Entry → Option Int
  | .int i => some i
  | .real x => Decimal.integral? x
  | .flag b => some (if b then 1 else 0)
  | _ => none

/-- The number an entry leaves in a cell of floating-point numbers. NaN leaves the cell empty. -/
def Entry.real? : Entry → Option Float
  | .real x => if Decimal.isNaN x then none else some x
  | .int i => some (Decimal.toFloat (decide (i < 0)) i.natAbs 0)
  | .flag b => some (Decimal.toFloat false (if b then 1 else 0) 0)
  | _ => none

/-- The truth value an entry leaves in a cell of truth values. -/
def Entry.flag? : Entry → Option Bool
  | .flag b => some b
  | .int i => some (i ≠ 0)
  | _ => none

/-- The moment an entry leaves in a cell of moments. -/
def Entry.moment? : Entry → Option Calendar.Moment
  | .text s =>
    match Calendar.readMoment s with
    | .ok t => some { t with offset := none }
    | .error _ => none
  | _ => none

/-- The document an entry leaves in a cell of documents. -/
def Entry.document? : Entry → Option Json
  | .document v => some v
  | .text s => some (.str s)
  | .int i => some (.int i)
  | .real x => some (.num x)
  | .flag b => some (.bool b)
  | .empty => none

/-- The entry that a document value stands for. -/
def Entry.ofJson : Json → Entry
  | .null => .empty
  | .bool b => .flag b
  | .int i => .int i
  | .num x => .real x
  | .str s => .text s
  | v => .document v

end TechCatalog.Store
