import TechCatalog.Decimal.Notation
import TechCatalog.Json.Value
import TechCatalog.Text.Quoted

/-!
# Writing documents

`Json.write` writes a document on one line. A `Layout` says what stands between items and between a
key and its value, and whether characters outside the printable ASCII range are written as escapes,
the ones beyond the basic plane as two halves.
-/

namespace TechCatalog.Json

/-- How a document is laid out. -/
structure Layout where
  /-- What separates items and members. -/
  comma : String
  /-- What separates a key from its value. -/
  colon : String
  /-- Whether every character outside printable ASCII is escaped. -/
  ascii : Bool

/-- Blanks after commas and colons, plain ASCII. -/
def spaced : Layout := ⟨", ", ": ", true⟩

/-- No blanks, plain ASCII. -/
def compact : Layout := ⟨",", ":", true⟩

/-- The escape of one 16-bit unit. -/
def unitEscape (n : Nat) : List Char :=
  '\\' :: 'u' :: Text.hexDigits 4 n

/-- One character of a text. -/
def escapedChar (ascii : Bool) (c : Char) : List Char :=
  let n := c.toNat
  if c = '"' ∨ c = '\\' then ['\\', c]
  else if n = 8 then ['\\', 'b']
  else if n = 12 then ['\\', 'f']
  else if c = '\n' then ['\\', 'n']
  else if c = '\r' then ['\\', 'r']
  else if c = '\t' then ['\\', 't']
  else if n < 0x20 then unitEscape n
  else if !ascii || n < 0x7F then [c]
  else if n < 0x10000 then unitEscape n
  else
    unitEscape (0xD800 + (n - 0x10000) / 0x400) ++ unitEscape (0xDC00 + (n - 0x10000) % 0x400)

/-- A text between double quotes. -/
def writeText (ascii : Bool) (s : String) : List Char :=
  '"' :: s.toList.flatMap (escapedChar ascii) ++ ['"']

mutual

/-- The characters of a document. -/
def writeChars (layout : Layout) : Json → List Char
  | .null => "null".toList
  | .bool true => "true".toList
  | .bool false => "false".toList
  | .int i => (toString i).toList
  | .num x => (Decimal.write Decimal.documentStyle x).toList
  | .str s => writeText layout.ascii s
  | .arr items => '[' :: writeItems layout items ++ [']']
  | .obj members => '\x7b' :: writeMembers layout members ++ ['\x7d']

/-- The characters of the items of an array, separated. -/
def writeItems (layout : Layout) : List Json → List Char
  | [] => []
  | [v] => writeChars layout v
  | v :: rest => writeChars layout v ++ layout.comma.toList ++ writeItems layout rest

/-- The characters of the members of an object, separated. -/
def writeMembers (layout : Layout) : List (String × Json) → List Char
  | [] => []
  | [(k, v)] => writeText layout.ascii k ++ layout.colon.toList ++ writeChars layout v
  | (k, v) :: rest =>
    writeText layout.ascii k ++ layout.colon.toList ++ writeChars layout v ++
      layout.comma.toList ++ writeMembers layout rest

end

/-- A document on one line. -/
def write (layout : Layout) (v : Json) : String :=
  String.ofList (writeChars layout v)

end TechCatalog.Json
