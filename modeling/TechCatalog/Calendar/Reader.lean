import TechCatalog.Calendar.Moment
import TechCatalog.Decimal.Numeral

/-!
# Reading moments

A moment may be sent as text or as a number. `readMoment` accepts a date and time of day in ISO
form, with a separator of the letter T, an underscore or a blank, with optional seconds, fraction
and offset; else a numeral, which counts seconds since 1970; else a date alone, which stands for its
midnight. A text that is none of these is described by what is wrong with it as a date.
-/

namespace TechCatalog.Calendar

/-- What is wrong with a text that should begin with a date. -/
inductive DateFault where
  /-- There are fewer characters than a date has. -/
  | tooShort
  /-- Another character stands where a digit of the year should. -/
  | yearChar
  /-- Another character stands where a hyphen should. -/
  | separator
  /-- Another character stands where a digit of the month should. -/
  | monthChar
  /-- Another character stands where a digit of the day should. -/
  | dayChar
  /-- There is no such month. -/
  | monthRange
  /-- The month has no such day. -/
  | dayRange
  /-- Something follows the date. -/
  | extra
  deriving DecidableEq, Repr

/-- What is said of a fault. -/
def DateFault.message : DateFault → String
  | .tooShort => "input is too short"
  | .yearChar => "invalid character in year"
  | .separator => "invalid date separator, expected `-`"
  | .monthChar => "invalid character in month"
  | .dayChar => "invalid character in day"
  | .monthRange => "month value is outside expected range of 1-12"
  | .dayRange => "day value is outside expected range"
  | .extra => "unexpected extra characters at the end of the input"

/-- The number that two digits write. -/
def twoDigits? (a b : Char) : Option Nat :=
  match Decimal.digitValue? a, Decimal.digitValue? b with
  | some a, some b => some (10 * a + b)
  | _, _ => none

/-- Reads a date and gives back what follows it. -/
def readDate (s : String) : Except DateFault (Moment × List Char) :=
  if s.utf8ByteSize < 10 then .error .tooShort
  else
    match s.toList with
    | y1 :: y2 :: y3 :: y4 :: h1 :: m1 :: m2 :: h2 :: d1 :: d2 :: rest =>
      match twoDigits? y1 y2, twoDigits? y3 y4 with
      | some century, some year =>
        if h1 ≠ '-' then .error .separator
        else
          match twoDigits? m1 m2 with
          | none => .error .monthChar
          | some month =>
            if h2 ≠ '-' then .error .separator
            else
              match twoDigits? d1 d2 with
              | none => .error .dayChar
              | some day =>
                let year := 100 * century + year
                if month < 1 ∨ 12 < month then .error .monthRange
                else if day < 1 ∨ daysIn year month < day then .error .dayRange
                else .ok ({ year, month, day }, rest)
      | _, _ => .error .yearChar
    | _ => .error .yearChar

/-- The microseconds that the digits of a fraction of a second stand for; digits beyond the sixth
are dropped. -/
def microOfDigits (ds : List Char) : Nat :=
  Decimal.natOfDigits ((ds ++ List.replicate 6 '0').take 6)

/-- Reads the end of a time of day: nothing, a letter for universal time, or a signed offset of less
than a day. -/
def readOffset : List Char → Option (Option Int)
  | [] => some none
  | ['Z'] => some (some 0)
  | ['z'] => some (some 0)
  | sign :: h1 :: h2 :: rest =>
    let minuteDigits := match rest with
      | [':', m1, m2] => twoDigits? m1 m2
      | [m1, m2] => twoDigits? m1 m2
      | _ => none
    match twoDigits? h1 h2, minuteDigits with
    | some h, some m =>
      if 60 ≤ m ∨ 24 ≤ h then none
      else if sign = '+' then some (some (60 * h + m : Nat))
      else if sign = '-' ∨ sign.toNat = 0x2212 then some (some (-(60 * h + m : Nat)))
      else none
    | _, _ => none
  | _ => none

/-- Reads the seconds of a time of day, if there are any, with their fraction, and gives back what
follows. -/
def readSeconds : List Char → Option (Nat × Nat × List Char)
  | ':' :: s1 :: s2 :: rest =>
    match twoDigits? s1 s2 with
    | none => none
    | some second =>
      if 60 ≤ second then none
      else
        match rest with
        | p :: d :: rest' =>
          if p = '.' ∨ p = ',' then
            if Decimal.isDigit d then
              some (second, microOfDigits ((d :: rest').takeWhile Decimal.isDigit),
                (d :: rest').dropWhile Decimal.isDigit)
            else none
          else some (second, 0, rest)
        | [p] => if p = '.' ∨ p = ',' then none else some (second, 0, rest)
        | [] => some (second, 0, [])
  | ':' :: _ => none
  | rest => some (0, 0, rest)

/-- Reads a time of day after a date. -/
def readTime (date : Moment) : List Char → Option Moment
  | h1 :: h2 :: ':' :: m1 :: m2 :: rest =>
    match twoDigits? h1 h2, twoDigits? m1 m2, readSeconds rest with
    | some hour, some minute, some (second, micro, rest) =>
      if 24 ≤ hour ∨ 60 ≤ minute then none
      else (readOffset rest).map fun offset => { date with hour, minute, second, micro, offset }
    | _, _, _ => none
  | _ => none

/-- Reads a date with a time of day. -/
def readDateTime (s : String) : Option Moment :=
  match readDate s with
  | .ok (date, sep :: rest) =>
    if sep = 'T' ∨ sep = 't' ∨ sep = ' ' ∨ sep = '_' then readTime date rest else none
  | _ => none

/-- Counts beyond this many are taken for milliseconds. -/
def secondsLimit : Nat := 20000000000

/-- A number that is no moment of the calendar. -/
inductive RangeFault where
  /-- The moment lies before the year 0. -/
  | tooEarly
  /-- The moment lies after the year 9999. -/
  | tooLate
  deriving DecidableEq, Repr

/-- What is said of a number that is no moment. -/
def RangeFault.message : RangeFault → String
  | .tooEarly => "dates before 0000 are not supported as unix timestamps"
  | .tooLate => "dates after 9999 are not supported as unix timestamps"

/-- The moment a count of seconds stands for, or of milliseconds where the count is large. -/
def momentOfCount (count : Int) (micro : Nat) : Except RangeFault Moment :=
  let (seconds, extra) :=
    if count.natAbs ≤ secondsLimit then (count, 0)
    else (Int.fdiv count 1000, (Int.fmod count 1000).toNat * 1000)
  if seconds < -62167219200 then .error .tooEarly
  else if 253402300799 < seconds then .error .tooLate
  else .ok (Moment.ofSeconds seconds (micro + extra))

/-- The natural number nearest to a positive floating-point number; a half goes up. -/
def nearestNat (x : Float) : Nat :=
  match Decimal.shape x with
  | .finite _ m q =>
    let unit := Decimal.twoPow (-q).toNat
    (2 * m * Decimal.twoPow q.toNat + unit) / (2 * unit)
  | _ => 0

/-- The microseconds in the fraction `part / 2 ^ k` of a second, computed as a floating-point number
and then rounded. -/
def microsecondsOf (part k : Nat) : Nat :=
  nearestNat (Decimal.toFloat false (part * Nat.pow 5 k) (6 - k))

/-- The moment a floating-point count of seconds stands for, to the nearest microsecond. The
microseconds of a negative count are added to the whole second before it. -/
def momentOfFloat (x : Float) : Except RangeFault Moment :=
  match Decimal.shape x with
  | .nan => .error .tooLate
  | .infinite negative => .error (if negative then .tooEarly else .tooLate)
  | .finite negative m q =>
    if 0 ≤ q then
      let whole : Int := (m * Decimal.twoPow q.toNat : Nat)
      momentOfCount (if negative then -whole else whole) 0
    else
      let unit := Decimal.twoPow (-q).toNat
      let whole : Int := (m / unit : Nat)
      let part := m % unit
      let micro := microsecondsOf part (-q).toNat
      if negative then momentOfCount (if part = 0 then -whole else -whole - 1) micro
      else momentOfCount whole micro

/-- The count that a numeral without white space around it writes. -/
def readCount (s : String) : Option (Except RangeFault Moment) :=
  let (negative, body) := Decimal.splitSign s.toList
  let whole := body.takeWhile Decimal.isDigit
  match body.dropWhile Decimal.isDigit with
  | [] =>
    if whole.isEmpty then none
    else
      let n : Int := Decimal.natOfDigits whole
      some (momentOfCount (if negative then -n else n) 0)
  | '.' :: fraction =>
    if whole.isEmpty || fraction.isEmpty || !fraction.all Decimal.isDigit then none
    else (Decimal.readDecimal negative body).map momentOfFloat
  | _ => none

/-- Reads a moment from text. -/
def readMoment (s : String) : Except DateFault Moment :=
  match readDateTime s with
  | some t => .ok t
  | none =>
    match readCount s with
    | some (.ok t) => .ok t
    | _ =>
      match readDate s with
      | .ok (date, []) => .ok date
      | .ok _ => .error .extra
      | .error fault => .error fault

end TechCatalog.Calendar
