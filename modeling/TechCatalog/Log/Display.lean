import TechCatalog.Decimal.Notation
import TechCatalog.Json.Value
import TechCatalog.Text.Quoted

/-!
# Values in messages

`display` shows a value inside a message: text in quotes, lists in brackets and objects in braces.
`plain` shows a value as a message of its own, in which text stands without quotes.
-/

namespace TechCatalog.Log

mutual

/-- A value inside a message. -/
def display : Json → String
  | .null => "None"
  | .bool true => "True"
  | .bool false => "False"
  | .int i => toString i
  | .num x => Decimal.write Decimal.plainStyle x
  | .str s => Text.quoted s
  | .arr items => "[" ++ displayItems items ++ "]"
  | .obj members => "\x7b" ++ displayMembers members ++ "\x7d"

/-- The items of a list, with commas between them. -/
def displayItems : List Json → String
  | [] => ""
  | [v] => display v
  | v :: rest => display v ++ ", " ++ displayItems rest

/-- The members of an object, with commas between them. -/
def displayMembers : List (String × Json) → String
  | [] => ""
  | [(k, v)] => Text.quoted k ++ ": " ++ display v
  | (k, v) :: rest => Text.quoted k ++ ": " ++ display v ++ ", " ++ displayMembers rest

end

/-- A value as a message of its own. -/
def plain : Json → String
  | .str s => s
  | v => display v

/-- The escape of a character outside ASCII. -/
def asciiChar (c : Char) : List Char :=
  if c.toNat < 0x80 then [c]
  else if c.toNat < 0x100 then '\\' :: 'x' :: Text.hexDigits 2 c.toNat
  else if c.toNat < 0x10000 then '\\' :: 'u' :: Text.hexDigits 4 c.toNat
  else '\\' :: 'U' :: Text.hexDigits 8 c.toNat

/-- A value inside a message that may hold ASCII only. -/
def displayAscii (v : Json) : String :=
  String.ofList ((display v).toList.flatMap asciiChar)

/-- The word for the kind of a value. -/
def kindName : Json → String
  | .null => "NoneType"
  | .bool _ => "bool"
  | .int _ => "int"
  | .num _ => "float"
  | .str _ => "str"
  | .arr _ => "list"
  | .obj _ => "dict"

end TechCatalog.Log
