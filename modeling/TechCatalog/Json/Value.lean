/-!
# Document values

A document is built from null, truth values, numbers, text, arrays and objects. Integers of any
size and floating-point numbers are different values, because a caller can tell them apart. An
object lists its members in the order of their first appearance, each key once.
-/

namespace TechCatalog

/-- A document value. -/
inductive Json where
  /-- The absent value. -/
  | null
  /-- A truth value. -/
  | bool (b : Bool)
  /-- An integer of any size. -/
  | int (i : Int)
  /-- A floating-point number. -/
  | num (x : Float)
  /-- Text. -/
  | str (s : String)
  /-- Values in a row. -/
  | arr (items : List Json)
  /-- Values under keys. -/
  | obj (members : List (String × Json))
  deriving Inhabited

namespace Json

/-- The members of an object. -/
abbrev Members := List (String × Json)

/-- The value under a key. -/
def Members.get? (key : String) (members : Members) : Option Json :=
  List.lookup key members

/-- Puts a value under a key: in the place of an earlier value, or else at the end. -/
def Members.put (key : String) (value : Json) : Members → Members
  | [] => [(key, value)]
  | (k, v) :: rest => if k = key then (k, value) :: rest else (k, v) :: Members.put key value rest

/-- The value under a key, if the value is an object that has it. -/
def get? (key : String) : Json → Option Json
  | .obj members => Members.get? key members
  | _ => none

/-- Text, or null where there is none. -/
def ofText? : Option String → Json
  | some s => .str s
  | none => .null

/-- An integer, or null where there is none. -/
def ofInt? : Option Int → Json
  | some i => .int i
  | none => .null

/-- A floating-point number, or null where there is none. -/
def ofFloat? : Option Float → Json
  | some x => .num x
  | none => .null

/-- A list of texts. -/
def ofTexts (xs : List String) : Json :=
  .arr (xs.map .str)

mutual

/-- Replaces every floating-point number of a document. -/
def mapFloats (f : Float → Json) : Json → Json
  | .num x => f x
  | .arr items => .arr (mapFloatsList f items)
  | .obj members => .obj (mapFloatsMembers f members)
  | other => other

/-- Replaces every floating-point number of a list of documents. -/
def mapFloatsList (f : Float → Json) : List Json → List Json
  | [] => []
  | v :: rest => mapFloats f v :: mapFloatsList f rest

/-- Replaces every floating-point number of the members of an object. -/
def mapFloatsMembers (f : Float → Json) : List (String × Json) → List (String × Json)
  | [] => []
  | (k, v) :: rest => (k, mapFloats f v) :: mapFloatsMembers f rest

end

end Json

end TechCatalog
