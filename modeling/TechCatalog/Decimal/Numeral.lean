import TechCatalog.Decimal.Binary
import TechCatalog.Text.Blank

/-!
# How numbers are read

`toFloat` rounds a decimal to the nearest floating-point number, ties to even, with overflow to an
infinity and underflow to zero. `readInteger` and `readNumber` read the numerals that callers may
send as text: surrounded by white space, with a sign, and with single underscores between digits.
-/

namespace TechCatalog.Decimal

/-- The value of a decimal digit. -/
def digitValue? (c : Char) : Option Nat :=
  if '0' ≤ c ∧ c ≤ '9' then some (c.toNat - 48) else none

/-- A decimal digit. -/
def isDigit (c : Char) : Bool :=
  '0' ≤ c && c ≤ '9'

/-- The most digits that the numeral of an integer may have, zeros at the front apart. -/
def digitLimit : Nat := 4300

/-- The number that a list of digits writes. -/
def natOfDigits (ds : List Char) : Nat :=
  ds.foldl (fun n c => 10 * n + (c.toNat - 48)) 0

/-- The floating-point number nearest to `digits * 10 ^ exponent` under a sign. Exponents far
outside the range are decided without forming the power. -/
def toFloat (negative : Bool) (digits : Nat) (exponent : Int) : Float :=
  let size : Int := (Nat.repr digits).length
  let magnitude : Float :=
    if digits = 0 then Float.ofBits 0
    else if 310 < exponent + size then Float.ofBits 0x7FF0000000000000
    else if exponent + size < -330 then Float.ofBits 0
    else Float.ofScientific digits (decide (exponent < 0)) exponent.natAbs
  if negative then Float.ofBits (magnitude.toBits + 0x8000000000000000) else magnitude

/-- The floating-point number nearest to an integer, unless it is out of range. -/
def ofInt? (i : Int) : Option Float :=
  let x := toFloat (decide (i < 0)) i.natAbs 0
  if isFinite x then some x else none

/-- Splits a sign off a numeral. -/
def splitSign : List Char → Bool × List Char
  | '-' :: rest => (true, rest)
  | '+' :: rest => (false, rest)
  | s => (false, s)

/-- Removes single underscores that stand between two digits; any other underscore is an error. -/
def joinDigits : List Char → Option (List Char)
  | [] => some []
  | '_' :: _ => none
  | c :: '_' :: d :: rest =>
    if isDigit c && isDigit d then (joinDigits (d :: rest)).map (c :: ·) else none
  | c :: rest => (joinDigits rest).map (c :: ·)

/-- Digits, at least one, with single underscores between them. -/
def readDigits (s : List Char) : Option Nat :=
  match joinDigits s with
  | some ds => if !ds.isEmpty && ds.all isDigit then some (natOfDigits ds) else none
  | none => none

/-- Whether a text consists of a point and one or more zeros, or is empty. -/
def isZeroTail : List Char → Bool
  | [] => true
  | '.' :: zeros => !zeros.isEmpty && zeros.all (· == '0')
  | _ => false

/-- Reads an integer of any size: white space around, a sign, digits, and a fraction of zeros. -/
def readInteger (s : String) : Option Int :=
  let (negative, body) := splitSign (Text.trim Text.isSpace s.toList)
  let whole := body.takeWhile (· ≠ '.')
  if isZeroTail (body.dropWhile (· ≠ '.')) then
    (readDigits whole).map fun n => if negative then -(n : Int) else n
  else none

/-- Reads digits with an optional point and exponent, digits on at least one side of the point. -/
def readDecimal (negative : Bool) (s : List Char) : Option Float :=
  let whole := s.takeWhile isDigit
  let afterWhole := s.dropWhile isDigit
  let (fraction, tail) := match afterWhole with
    | '.' :: rest => (rest.takeWhile isDigit, rest.dropWhile isDigit)
    | rest => ([], rest)
  if whole.isEmpty && fraction.isEmpty then none
  else
    let digits := natOfDigits (whole ++ fraction)
    match tail with
    | [] => some (toFloat negative digits (-fraction.length))
    | c :: rest =>
      if c = 'e' ∨ c = 'E' then
        let (down, ds) := splitSign rest
        if !ds.isEmpty && ds.all isDigit then
          let e : Int := natOfDigits ds
          some (toFloat negative digits ((if down then -e else e) - fraction.length))
        else none
      else none

/-- The infinity of the given sign. -/
def infinity (negative : Bool) : Float :=
  Float.ofBits (if negative then 0xFFF0000000000000 else 0x7FF0000000000000)

/-- Not a number. -/
def notANumber : Float :=
  Float.ofBits 0x7FF8000000000000

/-- Reads a number: white space around, a sign, and either a decimal or a word for an infinity or
NaN in any letter case. -/
def readNumber (s : String) : Option Float :=
  let (negative, body) := splitSign (Text.trim Text.isSpace s.toList)
  let word := String.ofList (body.map fun c =>
    if 'A' ≤ c ∧ c ≤ 'Z' then Char.ofNat (c.toNat + 32) else c)
  if word = "inf" ∨ word = "infinity" then some (infinity negative)
  else if word = "nan" then some notANumber
  else (joinDigits body).bind (readDecimal negative)

end TechCatalog.Decimal
