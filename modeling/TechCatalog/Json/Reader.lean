import TechCatalog.Decimal.Numeral
import TechCatalog.Json.Value

/-!
# Reading documents

`Json.read` reads a text as one document. Only blank, tab, line feed and carriage return count as
white space; the words `NaN`, `Infinity` and `-Infinity` are numbers; a number with a point or an
exponent is a floating-point number and any other an integer; of two members with one key the later
counts. A text is rejected at the position where reading could not go on. Two limits guard the
reader: the number of digits of an integer, and the depth of nesting. How deep a reader goes, and
what it makes of half a character that stands alone, differs from reader to reader.

Readers take the text that is left and give back what remains of it, and an error counts the
characters that were left, so that positions need not be carried along.
-/

namespace TechCatalog.Json

/-- Why a text is not a document. -/
inductive ReadError where
  /-- The text breaks the grammar where this many characters were left. -/
  | malformed (left : Nat)
  /-- An integer has too many digits. -/
  | hugeInteger
  /-- Arrays and objects are nested too deeply; the innermost is an object or an array. -/
  | tooDeep (inObject : Bool)
  /-- Half a character stands alone, and the reader has nothing to put in its place. -/
  | halfCharacter
  deriving DecidableEq, Repr

/-- A value and what is left after it. -/
abbrev Scan (α : Type) := Except ReadError (α × List Char)

/-- In what readers differ. -/
structure Reader where
  /-- The most arrays and objects that may be open at once, as far as the stack goes. -/
  nesting : Nat := 970
  /-- What is put in the place of half a character, which no text can hold. -/
  half? : Nat → Option Char := fun _ => some (Char.ofNat 0xFFFD)

/-- White space between the parts of a document. -/
def isGap (c : Char) : Bool :=
  c == ' ' || c == '\t' || c == '\n' || c == '\r'

/-- What is left after white space. -/
def skipGaps (s : List Char) : List Char :=
  s.dropWhile isGap

/-- The value of a hexadecimal digit. -/
def hexValue? (c : Char) : Option Nat :=
  if '0' ≤ c ∧ c ≤ '9' then some (c.toNat - 48)
  else if 'a' ≤ c ∧ c ≤ 'f' then some (c.toNat - 87)
  else if 'A' ≤ c ∧ c ≤ 'F' then some (c.toNat - 55)
  else none

/-- The number that four hexadecimal digits write. -/
def hexQuad? (a b c d : Char) : Option Nat :=
  match hexValue? a, hexValue? b, hexValue? c, hexValue? d with
  | some a, some b, some c, some d => some (((a * 16 + b) * 16 + c) * 16 + d)
  | _, _, _, _ => none

/-- The first half of a pair that stands for one character. -/
def isHighHalf (n : Nat) : Bool := 0xD800 ≤ n && n < 0xDC00

/-- The second half of a pair that stands for one character. -/
def isLowHalf (n : Nat) : Bool := 0xDC00 ≤ n && n < 0xE000

/-- The character two halves stand for. -/
def joinHalves (high low : Nat) : Char :=
  Char.ofNat (0x10000 + (high - 0xD800) * 0x400 + (low - 0xDC00))

/-- The character of a number, or what stands for half a pair alone. -/
def unitChar? (half? : Nat → Option Char) (n : Nat) : Option Char :=
  if 0xD800 ≤ n && n < 0xE000 then half? n else some (Char.ofNat n)

/-- The character that a one-letter escape stands for. -/
def shortEscape? (c : Char) : Option Char :=
  if c = '"' ∨ c = '\\' ∨ c = '/' then some c
  else if c = 'b' then some (Char.ofNat 8)
  else if c = 'f' then some (Char.ofNat 12)
  else if c = 'n' then some '\n'
  else if c = 'r' then some '\r'
  else if c = 't' then some '\t'
  else none

/-- Reads text up to its closing quote, as the numbers of its characters. `start` characters were
left at the opening quote, and `done` holds what was read, last number first. -/
def readUnits (start : Nat) (done : List Nat) : List Char → Scan (List Nat)
  | [] => .error (.malformed start)
  | '"' :: rest => .ok (done.reverse, rest)
  | '\\' :: 'u' :: a :: b :: c :: d :: rest =>
    match hexQuad? a b c d with
    | some n =>
      if rest.isEmpty then .error (.malformed 5) else readUnits start (n :: done) rest
    | none => .error (.malformed (rest.length + 5))
  | '\\' :: c :: rest =>
    if c = 'u' then .error (.malformed (rest.length + 1))
    else
      match shortEscape? c with
      | some x => readUnits start (x.toNat :: done) rest
      | none => .error (.malformed (rest.length + 2))
  | ['\\'] => .error (.malformed start)
  | c :: rest =>
    if c.toNat < 0x20 then .error (.malformed (rest.length + 1))
    else readUnits start (c.toNat :: done) rest

/-- Joins halves of characters that stand side by side. `done` holds what was joined, last
character first. -/
def joinUnits (half? : Nat → Option Char) (done : List Char) : List Nat → Option (List Char)
  | [] => some done.reverse
  | [n] => (unitChar? half? n).map fun c => (c :: done).reverse
  | n :: m :: rest =>
    if isHighHalf n && isLowHalf m then joinUnits half? (joinHalves n m :: done) rest
    else
      match unitChar? half? n with
      | some c => joinUnits half? (c :: done) (m :: rest)
      | none => none

/-- Reads text up to its closing quote; `start` characters were left at the opening quote. -/
def readText (half? : Nat → Option Char) (start : Nat) (s : List Char) : Scan String :=
  match readUnits start [] s with
  | .ok (units, rest) =>
    match joinUnits half? [] units with
    | some cs => .ok (String.ofList cs, rest)
    | none => .error .halfCharacter
  | .error e => .error e

/-- The fraction of a numeral: a point and at least one digit. -/
def splitFraction : List Char → Option (List Char × List Char)
  | '.' :: d :: rest =>
    if Decimal.isDigit d then
      some ((d :: rest).takeWhile Decimal.isDigit, (d :: rest).dropWhile Decimal.isDigit)
    else none
  | _ => none

/-- The exponent of a numeral: a letter, perhaps a sign, and at least one digit. -/
def splitExponent : List Char → Option (Int × List Char)
  | c :: rest =>
    if c = 'e' ∨ c = 'E' then
      let (down, digits) := Decimal.splitSign rest
      let ds := digits.takeWhile Decimal.isDigit
      if ds.isEmpty then none
      else
        let e : Int := Decimal.natOfDigits ds
        some (if down then -e else e, digits.dropWhile Decimal.isDigit)
    else none
  | [] => none

/-- Reads a numeral after its sign; `start` characters were left at its beginning. -/
def readNumeral (start : Nat) (negative : Bool) (s : List Char) : Scan Json :=
  let whole := match s with
    | '0' :: _ => ['0']
    | _ => s.takeWhile Decimal.isDigit
  if whole.isEmpty then .error (.malformed start)
  else
    let rest := s.drop whole.length
    let fraction := splitFraction rest
    let afterFraction := (fraction.map (·.2)).getD rest
    let exponent := splitExponent afterFraction
    if fraction.isNone && exponent.isNone then
      if Decimal.digitLimit < whole.length then .error .hugeInteger
      else
        let n : Int := Decimal.natOfDigits whole
        .ok (.int (if negative then -n else n), rest)
    else
      let places := (fraction.map (·.1)).getD []
      let e := (exponent.map (·.1)).getD 0
      let x := Decimal.toFloat negative (Decimal.natOfDigits (whole ++ places)) (e - places.length)
      .ok (.num x, (exponent.map (·.2)).getD afterFraction)

/-- Reads a value that is neither array nor object. -/
def readScalar (half? : Nat → Option Char) (s : List Char) : Scan Json :=
  match s with
  | '"' :: rest => (readText half? s.length rest).map fun r => (.str r.1, r.2)
  | 'n' :: 'u' :: 'l' :: 'l' :: rest => .ok (.null, rest)
  | 't' :: 'r' :: 'u' :: 'e' :: rest => .ok (.bool true, rest)
  | 'f' :: 'a' :: 'l' :: 's' :: 'e' :: rest => .ok (.bool false, rest)
  | 'N' :: 'a' :: 'N' :: rest => .ok (.num Decimal.notANumber, rest)
  | 'I' :: 'n' :: 'f' :: 'i' :: 'n' :: 'i' :: 't' :: 'y' :: rest =>
    .ok (.num (Decimal.infinity false), rest)
  | '-' :: 'I' :: 'n' :: 'f' :: 'i' :: 'n' :: 'i' :: 't' :: 'y' :: rest =>
    .ok (.num (Decimal.infinity true), rest)
  | '-' :: rest => readNumeral s.length true rest
  | _ => readNumeral s.length false s

/-- Reads the items of an array up to its closing bracket. Every item but the last takes a comma,
so the length of the text bounds their number. -/
def readItems (value : List Char → Scan Json) : Nat → List Json → List Char → Scan Json
  | 0, _, s => .error (.malformed s.length)
  | fuel + 1, done, s =>
    match value s with
    | .error e => .error e
    | .ok (v, rest) =>
      match skipGaps rest with
      | ']' :: rest => .ok (.arr (v :: done).reverse, rest)
      | ',' :: rest => readItems value fuel (v :: done) (skipGaps rest)
      | rest => .error (.malformed rest.length)

/-- Reads the members of an object up to its closing brace. -/
def readMembers (half? : Nat → Option Char) (value : List Char → Scan Json) :
    Nat → Members → List Char → Scan Json
  | 0, _, s => .error (.malformed s.length)
  | fuel + 1, done, s =>
    match s with
    | '"' :: rest =>
      match readText half? s.length rest with
      | .error e => .error e
      | .ok (key, rest) =>
        match skipGaps rest with
        | ':' :: rest =>
          match value (skipGaps rest) with
          | .error e => .error e
          | .ok (v, rest) =>
            let done := Members.put key v done
            match skipGaps rest with
            | '\x7d' :: rest => .ok (.obj done, rest)
            | ',' :: rest => readMembers half? value fuel done (skipGaps rest)
            | rest => .error (.malformed rest.length)
        | rest => .error (.malformed rest.length)
    | _ => .error (.malformed s.length)

/-- Reads a value in which at most `depth` arrays and objects are open at once. -/
def readValue (half? : Nat → Option Char) : Nat → List Char → Scan Json
  | depth, '[' :: rest =>
    match depth with
    | 0 => .error (.tooDeep false)
    | depth + 1 =>
      match skipGaps rest with
      | ']' :: rest => .ok (.arr [], rest)
      | rest => readItems (readValue half? depth) (rest.length + 1) [] rest
  | depth, '\x7b' :: rest =>
    match depth with
    | 0 => .error (.tooDeep true)
    | depth + 1 =>
      match skipGaps rest with
      | '\x7d' :: rest => .ok (.obj [], rest)
      | rest => readMembers half? (readValue half? depth) (rest.length + 1) [] rest
  | _, s => readScalar half? s

/-- Reads a text as one document with nothing but white space around it. A byte order mark at the
front is not part of any document. -/
def readChars (r : Reader) (s : List Char) : Except ReadError Json :=
  match readValue r.half? r.nesting (skipGaps s) with
  | .error e => .error e
  | .ok (v, rest) =>
    match skipGaps rest with
    | [] => .ok v
    | rest => .error (.malformed rest.length)

/-- Reads a text as one document. -/
def read (r : Reader) (s : String) : Except ReadError Json :=
  readChars r s.toList

/-- The position in a text at which this many characters are left. -/
def ReadError.position (text : String) (left : Nat) : Nat :=
  text.length - left

/-- What is said of nesting that is too deep. -/
def ReadError.depthMessage (inObject : Bool) : String :=
  "maximum recursion depth exceeded while decoding a JSON " ++
    (if inObject then "object" else "array") ++ " from a unicode string"

end TechCatalog.Json
