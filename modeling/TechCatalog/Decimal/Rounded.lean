import TechCatalog.Decimal.Notation

/-!
# Numbers with a given number of digits

A floating-point number is rounded to a given number of digits after the point. All arithmetic is
exact, and a number half way between two decimals goes to the one whose last digit is even. `fixed`
writes positional and `exponential` scientific notation; `general` chooses between the two and
leaves out zeros at the end.
-/

namespace TechCatalog.Decimal

/-- A fraction rounded to the nearest natural number; a half goes to the even one. -/
def roundDiv (num den : Nat) : Nat :=
  let d := num / den
  let rest := num % den
  if den < 2 * rest ∨ (2 * rest = den ∧ d % 2 = 1) then d + 1 else d

/-- The number `m * 2 ^ q * 10 ^ p`, rounded. -/
def scaled (m : Nat) (q p : Int) : Nat :=
  roundDiv (m * twoPow q.toNat * tenPow p.toNat) (twoPow (-q).toNat * tenPow (-p).toNat)

/-- The integer that is left of a number when its fractional part is cut off; none for what is not
finite. -/
def truncated? (x : Float) : Option Int :=
  match shape x with
  | .finite negative m q =>
    let size : Nat := m * twoPow q.toNat / twoPow (-q).toNat
    some (if negative then -size else size)
  | _ => none

/-- Digits with a point before the last `places` of them. The point is left out where nothing
follows it, unless it is wanted. -/
def withPoint (places : Nat) (keepPoint : Bool) (ds : List Char) : List Char :=
  let ds := padLeft (places + 1) ds
  let (whole, fraction) := ds.splitAt (ds.length - places)
  if fraction.isEmpty && !keepPoint then whole else whole ++ '.' :: fraction

/-- A positive number in positional notation. -/
def fixed (places : Nat) (keepPoint : Bool) (m : Nat) (q : Int) : List Char :=
  withPoint places keepPoint (digitsOf (scaled m q places))

/-- The leading digits of a number, one more than `places`, and the exponent of the first. -/
def leading (places : Nat) (m : Nat) (q : Int) : Nat × Int :=
  if m = 0 then (0, 0)
  else
    let e := leadingExponent m q
    let n := scaled m q (places - e)
    if tenPow (places + 1) ≤ n then (tenPow places, e + 1) else (n, e)

/-- An exponent with its sign and at least two digits. -/
def exponentMark (e : Int) : List Char :=
  'e' :: (if e < 0 then '-' else '+') :: padLeft 2 (digitsOf e.natAbs)

/-- A positive number in scientific notation. -/
def exponential (places : Nat) (keepPoint : Bool) (m : Nat) (q : Int) : List Char :=
  let (n, e) := leading places m q
  withPoint places keepPoint (digitsOf n) ++ exponentMark e

/-- Text without the zeros at its end, and without the point that they leave bare. -/
def dropZeros (s : List Char) : List Char :=
  if s.contains '.' then ((s.reverse.dropWhile (· == '0')).dropWhile (· == '.')).reverse else s

/-- A positive number with a given number of digits in all: scientific where the exponent is below
minus four or as large as the number of digits, and positional otherwise. -/
def general (digits : Nat) (keepZeros : Bool) (m : Nat) (q : Int) : List Char :=
  let digits := max 1 digits
  let (n, e) := leading (digits - 1) m q
  let trim := fun s => if keepZeros then s else dropZeros s
  if e < -4 ∨ (digits : Int) ≤ e then
    trim (withPoint (digits - 1) keepZeros (digitsOf n)) ++ exponentMark e
  else trim (fixed (digits - 1 - e).toNat keepZeros m q)

end TechCatalog.Decimal
