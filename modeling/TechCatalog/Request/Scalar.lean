import TechCatalog.Calendar.Reader
import TechCatalog.Request.Checked
import TechCatalog.Text.Case

/-!
# Reading single values

Values are read with some tolerance: numbers may be sent as text or as truth values, truth values as
numbers or as words, and floating-point numbers without a fractional part count as integers. Text
is never made from anything else. `nullable` adds null to what a reader accepts.
-/

namespace TechCatalog.Request

/-- Reads text. -/
def readText : Json → Checked String
  | .str s => .accept s
  | _ => .fail .notText

/-- The words for the two truth values, in any letter case. -/
def boolOfWord? (s : String) : Option Bool :=
  let w := Text.asciiLower s
  if ["0", "off", "f", "false", "n", "no"].contains w then some false
  else if ["1", "on", "t", "true", "y", "yes"].contains w then some true
  else none

/-- Reads a truth value. -/
def readBool : Json → Checked Bool
  | .bool b => .accept b
  | .int i =>
    if i = 0 then .accept false else if i = 1 then .accept true else .fail .unclearBool
  | .num x =>
    if Decimal.integral? x = some 0 then .accept false
    else if Decimal.integral? x = some 1 then .accept true
    else .fail .notBool
  | .str s =>
    match boolOfWord? s with
    | some b => .accept b
    | none => .fail .unclearBool
  | _ => .fail .notBool

/-- Reads an integer of any size; only in a text, the number of its digits is limited. -/
def readInteger : Json → Checked Int
  | .int i => .accept i
  | .bool b => .accept (if b then 1 else 0)
  | .num x =>
    if !Decimal.isFinite x then .fail .notFinite
    else
      match Decimal.integral? x with
      | none => .fail .fractional
      | some i => if i.natAbs < Decimal.twoPow 63 then .accept i else .fail .hugeInteger
  | .str s =>
    match Decimal.readInteger s with
    | some i =>
      if (Nat.toDigits 10 i.natAbs).length ≤ Decimal.digitLimit then .accept i
      else .fail .hugeInteger
    | none => .fail .unclearInteger
  | _ => .fail .notInteger

/-- Reads a floating-point number. -/
def readNumber : Json → Checked Float
  | .num x => .accept x
  | .int i =>
    match Decimal.ofInt? i with
    | some x => .accept x
    | none => .fail .notNumber
  | .bool b => .accept (Decimal.toFloat false (if b then 1 else 0) 0)
  | .str s =>
    match Decimal.readNumber s with
    | some x => .accept x
    | none => .fail .unclearNumber
  | _ => .fail .notNumber

/-- Reads a moment. -/
def readMoment : Json → Checked Calendar.Moment
  | .str s =>
    match Calendar.readMoment s with
    | .ok t => .accept t
    | .error fault => .fail (.notDate fault.message)
  | .int i =>
    match Calendar.momentOfCount i 0 with
    | .ok t => .accept t
    | .error fault => .fail (.unclearMoment fault.message)
  | .num x =>
    if Decimal.isNaN x then .fail (.unclearMoment "NaN values not permitted")
    else
      match Calendar.momentOfFloat x with
      | .ok t => .accept t
      | .error fault => .fail (.unclearMoment fault.message)
  | _ => .fail .notMoment

/-- Reads null or what a reader accepts. -/
def nullable {α : Type} (read : Json → Checked α) : Json → Checked (Option α)
  | .null => .accept none
  | v => (read v).map some

/-- Accepts integers from a bound on. -/
def atLeast (least : Int) (read : Json → Checked Int) (v : Json) : Checked Int :=
  (read v).andThen fun i => if least ≤ i then .accept i else .fail (.below least)

/-- Accepts integers above a bound. -/
def above (bound : Int) (read : Json → Checked Int) (v : Json) : Checked Int :=
  (read v).andThen fun i => if bound < i then .accept i else .fail (.notAbove bound)

/-- Reads a fixed row of values. -/
def readTuple {α : Type} (read : Json → Checked α) : Json → Checked (List α)
  | .arr items => Checked.items read 0 items
  | _ => .fail .notTuple

/-- Reads an array. -/
def readList {α : Type} (read : Json → Checked α) : Json → Checked (List α)
  | .arr items => Checked.items read 0 items
  | _ => .fail .notList

/-- Reads an object whose keys may be any text. -/
def readMap {α : Type} (read : Json → Checked α) : Json → Checked (List (String × α))
  | .obj o => Checked.members read o
  | _ => .fail .notObject

/-- Reads a word out of a list of words and their meanings. -/
def readWord {α : Type} (meanings : List (String × α)) : Json → Checked α
  | .str s =>
    match meanings.lookup s with
    | some a => .accept a
    | none => .fail (.notOneOf (meanings.map (·.1)))
  | _ => .fail (.notOneOf (meanings.map (·.1)))

end TechCatalog.Request
