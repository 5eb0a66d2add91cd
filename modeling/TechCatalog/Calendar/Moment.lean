import TechCatalog.Decimal.Notation

/-!
# Moments

A moment is a date of the proleptic Gregorian calendar with a time of day to the microsecond and
perhaps an offset from universal time. `Moment.write` gives its ISO form, with the fraction only
where it is not zero. `Moment.ofSeconds` is the moment a count of seconds since 1970 stands for.
-/

namespace TechCatalog.Calendar

/-- A date with a time of day. -/
structure Moment where
  year : Nat
  /-- The month, from 1. -/
  month : Nat
  /-- The day of the month, from 1. -/
  day : Nat
  /-- The hour, from 0 to 23. -/
  hour : Nat := 0
  /-- The minute, from 0 to 59. -/
  minute : Nat := 0
  /-- The second, from 0 to 59. -/
  second : Nat := 0
  micro : Nat := 0
  /-- The offset from universal time in minutes, if it is known. -/
  offset : Option Int := none
  deriving DecidableEq, Repr, Inhabited

/-- A leap year. -/
def isLeapYear (year : Nat) : Bool :=
  year % 4 == 0 && (year % 100 != 0 || year % 400 == 0)

/-- The number of days of a month; none if there is no such month. -/
def daysIn (year month : Nat) : Nat :=
  match month with
  | 1 | 3 | 5 | 7 | 8 | 10 | 12 => 31
  | 4 | 6 | 9 | 11 => 30
  | 2 => if isLeapYear year then 29 else 28
  | _ => 0

/-- A number with at least this many digits. -/
def padded (width n : Nat) : List Char :=
  Decimal.padLeft width (Decimal.digitsOf n)

/-- An offset from universal time. -/
def writeOffset (minutes : Int) : List Char :=
  (if minutes < 0 then '-' else '+') ::
    (padded 2 (minutes.natAbs / 60) ++ ':' :: padded 2 (minutes.natAbs % 60))

/-- The ISO form of a moment. -/
def Moment.write (t : Moment) : String :=
  String.ofList <|
    padded 4 t.year ++ '-' :: (padded 2 t.month ++ '-' :: (padded 2 t.day ++ 'T' ::
    (padded 2 t.hour ++ ':' :: (padded 2 t.minute ++ ':' :: (padded 2 t.second ++
    ((if t.micro = 0 then [] else '.' :: padded 6 t.micro) ++
    (t.offset.map writeOffset).getD []))))))

/-- The place of a moment in chronological order, offsets aside. -/
def Moment.orderKey (t : Moment) : Nat :=
  (((((t.year * 13 + t.month) * 32 + t.day) * 24 + t.hour) * 60 + t.minute) * 60 + t.second)
    * 1000000 + t.micro

/-- The year, month and day that lie this many days after the first of January 1970. -/
def civilOfDays (days : Int) : Int × Nat × Nat :=
  let z := days + 719468
  let era := Int.fdiv z 146097
  let dayOfEra := (z - era * 146097).toNat
  let yearOfEra :=
    (dayOfEra - dayOfEra / 1460 + dayOfEra / 36524 - dayOfEra / 146096) / 365
  let dayOfYear := dayOfEra - (365 * yearOfEra + yearOfEra / 4 - yearOfEra / 100)
  let shifted := (5 * dayOfYear + 2) / 153
  let day := dayOfYear - (153 * shifted + 2) / 5 + 1
  let month := if shifted < 10 then shifted + 3 else shifted - 9
  (yearOfEra + era * 400 + (if month ≤ 2 then 1 else 0), month, day)

/-- The moment, in universal time, that lies this many seconds and microseconds after the start of
1970. -/
def Moment.ofSeconds (seconds : Int) (micro : Nat) : Moment :=
  let total := seconds + (micro / 1000000 : Nat)
  let days := Int.fdiv total 86400
  let rest := (total - days * 86400).toNat
  let (year, month, day) := civilOfDays days
  ⟨year.toNat, month, day, rest / 3600, rest / 60 % 60, rest % 60, micro % 1000000, some 0⟩

end TechCatalog.Calendar
