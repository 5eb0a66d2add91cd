import TechCatalog.Decimal.Binary

/-!
# The shortest decimal that reads back

`shortest` gives, for a positive number `m * 2 ^ q`, the decimal with the fewest digits among those
that lie closer to it than to any other floating-point number, and of these the one nearest to it.
All arithmetic is exact: numbers are compared as fractions over one denominator.
-/

namespace TechCatalog.Decimal

/-- A decimal: `digits * 10 ^ exponent`. -/
structure Digits where
  /-- The digits, read as a natural number. -/
  digits : Nat
  /-- The power of ten that the last digit stands for. -/
  exponent : Int
  deriving DecidableEq, Repr

/-- The positive numbers that read as one floating-point number, over the denominator
`denominator`: from `low` to `high`, with the ends when `closed`, around `value`. -/
structure Interval where
  /-- The number itself. -/
  value : Nat
  /-- Half way to the number below. -/
  low : Nat
  /-- Half way to the number above. -/
  high : Nat
  /-- What all three are divided by. -/
  denominator : Nat
  /-- Whether the two ends read as the number too. -/
  closed : Bool

/-- The interval of `m * 2 ^ q`. Below a power of two the neighbours lie closer together. -/
def intervalOf (m : Nat) (q : Int) : Interval :=
  let unit := twoPow q.toNat
  let gap := if m = twoPow 52 ∧ -1074 < q then unit else 2 * unit
  { value := 4 * m * unit
    low := 4 * m * unit - gap
    high := 4 * m * unit + 2 * unit
    denominator := 4 * twoPow (-q).toNat
    closed := m % 2 == 0 }

/-- Whether `d` times the fraction `num / den` lies in the interval. -/
def Interval.holds (i : Interval) (d num den : Nat) : Bool :=
  let x := d * num * i.denominator
  let lo := i.low * den
  let hi := i.high * den
  if i.closed then decide (lo ≤ x) && decide (x ≤ hi) else decide (lo < x) && decide (x < hi)

/-- The multiple of `10 ^ e` that lies in the interval, if there is one, and the one nearer to the
value if there are two; a tie goes to the even digit. -/
def Interval.onGrid? (i : Interval) (e : Int) : Option Nat :=
  let num := tenPow e.toNat
  let den := tenPow (-e).toNat
  let top := i.value * den
  let bottom := num * i.denominator
  let d := top / bottom
  let rest := top % bottom
  let up := if 2 * rest = bottom then d % 2 = 1 else bottom < 2 * rest
  let (first, second) := if up then (d + 1, d) else (d, d + 1)
  if i.holds first num den then some first
  else if i.holds second num den then some second
  else none

/-- The largest `e` with `10 ^ e ≤ m * 2 ^ q`, for a positive `m`. -/
def leadingExponent (m : Nat) (q : Int) : Int :=
  let guess := Int.fdiv ((m.log2 + q) * 30103) 100000
  let next := guess + 1
  if tenPow next.toNat * twoPow (-q).toNat ≤ m * twoPow q.toNat * tenPow (-next).toNat then next
  else guess

/-- Removes the zeros at the end of a decimal, at most `fuel` of them. -/
def Digits.normalize (fuel : Nat) (x : Digits) : Digits :=
  match fuel with
  | 0 => x
  | fuel + 1 =>
    if x.digits % 10 = 0 then Digits.normalize fuel ⟨x.digits / 10, x.exponent + 1⟩ else x

/-- The first grid, from coarse to fine, that has a point in the interval. -/
def Interval.search (i : Interval) (e : Int) : Nat → Digits
  | 0 => ⟨i.value / i.denominator, 0⟩
  | fuel + 1 =>
    match i.onGrid? e with
    | some d => ⟨d, e⟩
    | none => i.search (e - 1) fuel

/-- The shortest decimal that reads back as `m * 2 ^ q`, for a positive `m`. Seventeen digits are
always enough. -/
def shortest (m : Nat) (q : Int) : Digits :=
  ((intervalOf m q).search (leadingExponent m q) 18).normalize 18

end TechCatalog.Decimal
