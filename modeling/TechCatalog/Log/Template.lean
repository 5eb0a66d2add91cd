import TechCatalog.Decimal.Numeral
import TechCatalog.Decimal.Rounded
import TechCatalog.Log.Display

/-!
# Message templates

A message may be a template with places for arguments. A place begins with a percent sign and ends
with a letter that says how the argument is shown; between the two may stand the key of the
argument, flags, a width and a precision. Two percent signs stand for one. `fill` puts the arguments
into a template, and `TemplateError` lists why that can fail. A template without arguments is a
message as it stands.
-/

namespace TechCatalog.Log

/-- The two counts of a place. -/
inductive CountKind where
  /-- The least number of characters. -/
  | width
  /-- The number of digits, or the greatest number of characters of a text. -/
  | precision
  deriving DecidableEq, Repr

/-- The largest value of a count. -/
def CountKind.limit : CountKind → Int
  | .width => Decimal.twoPow 63 - 1
  | .precision => Decimal.twoPow 31 - 1

/-- The name of a count. -/
def CountKind.name : CountKind → String
  | .width => "width"
  | .precision => "precision"

/-- The word for the numbers that a count may have. -/
def CountKind.range : CountKind → String
  | .width => "ssize_t"
  | .precision => "int"

/-- Why arguments do not fit a template. -/
inductive TemplateError where
  /-- There are fewer arguments than places. -/
  | tooFew
  /-- There are more arguments than places. -/
  | tooMany
  /-- A place has a key, and the arguments have none. -/
  | noKeys
  /-- No argument has this key. -/
  | noArgument (key : String)
  /-- The key of a place does not end. -/
  | openKey
  /-- A place does not end. -/
  | openPlace
  /-- A width or precision that is to be taken from the arguments is no integer. -/
  | starNotInteger
  /-- A width or precision that is written in the template is too large. -/
  | hugeCount (what : CountKind)
  /-- A width or precision that is taken from the arguments is too large. -/
  | hugeStar (what : CountKind)
  /-- A place for a number has an argument of another kind. -/
  | notReal (letter : Char) (kind : String)
  /-- A place for an integer has an argument of another kind. -/
  | notInteger (letter : Char) (kind : String)
  /-- A place for a floating-point number has an argument of another kind. -/
  | notFloat (kind : String)
  /-- NaN is no integer. -/
  | nanNotInteger
  /-- An infinity is no integer. -/
  | infinityNotInteger
  /-- An integer is too large for a floating-point number. -/
  | hugeInteger
  /-- A place for a character has an argument that is none. -/
  | notCharacter
  /-- A place for a character has a number that no character has. -/
  | noCharacter
  /-- There is no such letter, at this position of the template. -/
  | unknownLetter (letter : Char) (position : Nat)
  deriving DecidableEq, Repr

/-- A letter as it is shown in an error. -/
def shownLetter (c : Char) : Char :=
  if 31 ≤ c.toNat && c.toNat ≤ 126 then c else '?'

/-- A number in hexadecimal digits. -/
def hexText (n : Nat) : String :=
  String.ofList (Nat.toDigits 16 n)

/-- What is said of a template error. -/
def TemplateError.message : TemplateError → String
  | .tooFew => "not enough arguments for format string"
  | .tooMany => "not all arguments converted during string formatting"
  | .noKeys => "format requires a mapping"
  | .noArgument key => Text.quoted key
  | .openKey => "incomplete format key"
  | .openPlace => "incomplete format"
  | .starNotInteger => "* wants int"
  | .hugeCount what => what.name ++ " too big"
  | .hugeStar what => "Python int too large to convert to C " ++ what.range
  | .notReal letter kind =>
    "%" ++ letter.toString ++ " format: a real number is required, not " ++ kind
  | .notInteger letter kind =>
    "%" ++ letter.toString ++ " format: an integer is required, not " ++ kind
  | .notFloat kind => "must be real number, not " ++ kind
  | .nanNotInteger => "cannot convert float NaN to integer"
  | .infinityNotInteger => "cannot convert float infinity to integer"
  | .hugeInteger => "int too large to convert to float"
  | .notCharacter => "%c requires int or char"
  | .noCharacter => "%c arg not in range(0x110000)"
  | .unknownLetter letter position =>
    "unsupported format character '" ++ (shownLetter letter).toString ++ "' (0x" ++
      hexText letter.toNat ++ ") at index " ++ toString position

/-- The arguments that are left for the places of a template. -/
structure Supply where
  /-- The values still to be used, in order. -/
  values : List Json
  /-- The values by key, if they have keys. -/
  keyed : Option Json.Members := none

/-- The arguments of a message. A single object that is not empty gives the values by key. -/
def Supply.ofArguments : List Json → Supply
  | [.obj (m :: ms)] => ⟨[.obj (m :: ms)], some (m :: ms)⟩
  | values => ⟨values, none⟩

/-- The next argument. -/
def Supply.take (s : Supply) : Except TemplateError (Json × Supply) :=
  match s.values with
  | [] => .error .tooFew
  | v :: rest => .ok (v, { s with values := rest })

/-- Makes the value of a key the only argument that is left. -/
def Supply.select (s : Supply) (key : String) : Except TemplateError Supply :=
  match s.keyed with
  | none => .error .noKeys
  | some members =>
    match Json.Members.get? key members with
    | some v => .ok { s with values := [v] }
    | none => .error (.noArgument key)

/-- The flags of a place. -/
structure Flags where
  /-- Blanks go to the right. -/
  left : Bool := false
  /-- A number that is not negative bears a plus sign. -/
  plus : Bool := false
  /-- A number that is not negative bears a blank. -/
  blank : Bool := false
  /-- A number bears the mark of its base, or its point. -/
  marked : Bool := false
  /-- A number is filled up with zeros. -/
  zeros : Bool := false
  deriving DecidableEq, Repr

/-- Sets the flag of a character. -/
def Flags.set (f : Flags) (c : Char) : Flags :=
  if c = '-' then { f with left := true }
  else if c = '+' then { f with plus := true }
  else if c = ' ' then { f with blank := true }
  else if c = '#' then { f with marked := true }
  else { f with zeros := true }

/-- The characters of flags. -/
def flagChars : List Char := ['-', '+', ' ', '#', '0']

/-- A place of a template. -/
structure Place where
  flags : Flags := {}
  /-- The least number of characters. -/
  width : Nat := 0
  precision : Option Nat := none
  /-- How the argument is shown. -/
  letter : Char
  deriving DecidableEq, Repr

/-- The key up to the parenthesis that closes it, and what follows. -/
def splitKey (depth : Nat) : List Char → Option (List Char × List Char)
  | [] => none
  | c :: rest =>
    if c = ')' ∧ depth = 0 then some ([], rest)
    else
      let depth := if c = ')' then depth - 1 else if c = '(' then depth + 1 else depth
      (splitKey depth rest).map fun r => (c :: r.1, r.2)

/-- An integer argument for a width or a precision. -/
def starValue (s : Supply) : Except TemplateError (Int × Supply) := do
  let (v, s) ← s.take
  match v with
  | .int i => return (i, s)
  | .bool b => return (if b then 1 else 0, s)
  | _ => .error .starNotInteger

/-- Reads digits, or a star that stands for an argument. -/
def readCount (what : CountKind) (s : Supply) :
    List Char → Except TemplateError (Option Int × Supply × List Char)
  | '*' :: rest => do
    let (i, s) ← starValue s
    if -what.limit - 1 ≤ i ∧ i ≤ what.limit then return (some i, s, rest)
    else .error (.hugeStar what)
  | chars =>
    match chars.takeWhile Decimal.isDigit with
    | [] => .ok (none, s, chars)
    | ds =>
      let n := Decimal.natOfDigits ds
      if what.limit < n then .error (.hugeCount what)
      else .ok (some n, s, chars.dropWhile Decimal.isDigit)

/-- Reads a place after its percent sign; gives it with the arguments that are left and the rest of
the template. -/
def readPlace (s : Supply) (chars : List Char) :
    Except TemplateError (Place × Supply × List Char) := do
  let (s, chars) ← match chars with
    | '(' :: rest =>
      match s.keyed, splitKey 0 rest with
      | none, _ => .error .noKeys
      | some _, none => .error .openKey
      | some _, some (key, rest) => do
        let s ← s.select (String.ofList key)
        pure (s, rest)
    | _ => pure (s, chars)
  let flags := (chars.takeWhile flagChars.contains).foldl Flags.set {}
  let (width, s, chars) ← readCount .width s (chars.dropWhile flagChars.contains)
  let flags := if width.any (· < 0) then { flags with left := true } else flags
  let (precision, s, chars) ← match chars with
    | '.' :: rest => do
      let (n, s, rest) ← readCount .precision s rest
      pure (some (n.getD 0).toNat, s, rest)
    | _ => pure (none, s, chars)
  let chars := match chars with
    | c :: rest => if c = 'h' ∨ c = 'l' ∨ c = 'L' then rest else chars
    | [] => []
  match chars with
  | [] => .error .openPlace
  | c :: rest => return (⟨flags, (width.getD 0).natAbs, precision, c⟩, s, rest)

/-- A number taken apart for filling: its sign, the mark of its base, and its digits. -/
structure Numeral where
  /-- Whether it bears a minus sign. -/
  negative : Bool
  /-- The mark of the base. -/
  mark : List Char := []
  /-- The digits. -/
  body : List Char

/-- Text filled up to a width with blanks. -/
def fillBlanks (p : Place) (s : List Char) : List Char :=
  let blanks := List.replicate (p.width - s.length) ' '
  if p.flags.left then s ++ blanks else blanks ++ s

/-- A number with its sign, filled up to the width of its place. -/
def fillNumeral (p : Place) (n : Numeral) : List Char :=
  let sign := if n.negative then ['-'] else if p.flags.plus then ['+']
    else if p.flags.blank then [' '] else []
  let head := sign ++ n.mark
  if p.flags.zeros && !p.flags.left then
    head ++ Decimal.padLeft (p.width - head.length) n.body
  else fillBlanks p (head ++ n.body)

/-- The integer of an argument, from which a fractional part is cut off. -/
def integerOf (letter : Char) : Json → Except TemplateError Int
  | .int i => .ok i
  | .bool b => .ok (if b then 1 else 0)
  | .num x =>
    match Decimal.truncated? x with
    | some i => .ok i
    | none => .error (if Decimal.isNaN x then .nanNotInteger else .infinityNotInteger)
  | v => .error (.notReal letter (kindName v))

/-- The integer of an argument that is one. -/
def exactIntegerOf (letter : Char) : Json → Except TemplateError Int
  | .int i => .ok i
  | .bool b => .ok (if b then 1 else 0)
  | v => .error (.notInteger letter (kindName v))

/-- An integer in some base with the mark of the base. -/
def integerNumeral (p : Place) (base : Nat) (mark : List Char) (i : Int) : Numeral :=
  let ds := Nat.toDigits base i.natAbs
  { negative := i < 0
    mark := if p.flags.marked then mark else []
    body := Decimal.padLeft (p.precision.getD 0) ds }

/-- The floating-point number of an argument. -/
def floatOf : Json → Except TemplateError Float
  | .num x => .ok x
  | .int i =>
    match Decimal.ofInt? i with
    | some x => .ok x
    | none => .error .hugeInteger
  | .bool b => .ok (Decimal.toFloat false (if b then 1 else 0) 0)
  | v => .error (.notFloat (kindName v))

/-- A floating-point number with six digits or as many as the precision says. -/
def floatNumeral (p : Place) (x : Float) : Numeral :=
  let places := p.precision.getD 6
  match Decimal.shape x with
  | .nan => { negative := false, body := ['n', 'a', 'n'] }
  | .infinite negative => { negative, body := ['i', 'n', 'f'] }
  | .finite negative m q =>
    let write := match p.letter.toLower with
      | 'e' => Decimal.exponential
      | 'f' => Decimal.fixed
      | _ => Decimal.general
    { negative, body := write places p.flags.marked m q }

/-- The character of an argument. -/
def characterOf : Json → Except TemplateError Char
  | .str s =>
    match s.toList with
    | [c] => .ok c
    | _ => .error .notCharacter
  | .int i => if 0 ≤ i ∧ i < 0x110000 then .ok (Char.ofNat i.toNat) else .error .noCharacter
  | .bool b => .ok (Char.ofNat (if b then 1 else 0))
  | _ => .error .notCharacter

/-- Text cut off at the precision of a place. -/
def cutText (p : Place) (s : String) : List Char :=
  match p.precision with
  | some n => s.toList.take n
  | none => s.toList

/-- Shows an argument in a place; `position` is that of the letter. -/
def showArgument (p : Place) (position : Nat) (v : Json) : Except TemplateError (List Char) :=
  match p.letter with
  | 's' => .ok (fillBlanks p (cutText p (plain v)))
  | 'r' => .ok (fillBlanks p (cutText p (display v)))
  | 'a' => .ok (fillBlanks p (cutText p (displayAscii v)))
  | 'c' => (characterOf v).map fun c => fillBlanks p [c]
  | 'd' | 'i' | 'u' =>
    (integerOf p.letter v).map fun i => fillNumeral p (integerNumeral p 10 [] i)
  | 'o' => (exactIntegerOf 'o' v).map fun i => fillNumeral p (integerNumeral p 8 ['0', 'o'] i)
  | 'x' => (exactIntegerOf 'x' v).map fun i => fillNumeral p (integerNumeral p 16 ['0', 'x'] i)
  | 'X' =>
    (exactIntegerOf 'X' v).map fun i =>
      (fillNumeral p (integerNumeral p 16 ['0', 'x'] i)).map Char.toUpper
  | 'e' | 'f' | 'g' => (floatOf v).map fun x => fillNumeral p (floatNumeral p x)
  | 'E' | 'F' | 'G' =>
    (floatOf v).map fun x => (fillNumeral p (floatNumeral p x)).map Char.toUpper
  | c => .error (.unknownLetter c position)

/-- Fills the places of the rest of a template of `size` characters. -/
def fillFrom (size : Nat) : Nat → Supply → List Char → Except TemplateError (List Char)
  | _, s, [] => if s.keyed.isNone && !s.values.isEmpty then .error .tooMany else .ok []
  | 0, _, _ :: _ => .ok []
  | fuel + 1, s, '%' :: '%' :: rest => do return '%' :: (← fillFrom size fuel s rest)
  | fuel + 1, s, '%' :: rest => do
    let (p, s, rest) ← readPlace s rest
    let (v, s) ← s.take
    let shown ← showArgument p (size - rest.length - 1) v
    return shown ++ (← fillFrom size fuel s rest)
  | fuel + 1, s, c :: rest => do return c :: (← fillFrom size fuel s rest)

/-- A message made of a template and its arguments. -/
def fill (template : Json) (arguments : List Json) : Except TemplateError String :=
  match arguments with
  | [] => .ok (plain template)
  | _ =>
    let chars := (plain template).toList
    (fillFrom chars.length chars.length (.ofArguments arguments) chars).map String.ofList

end TechCatalog.Log
