/-!
# Binary floating-point numbers taken apart

`Shape` says what a 64-bit floating-point number stands for: nothing, an infinity, or the product
of a natural number and a power of two under a sign. `orderKey` numbers all values but NaN in their
order, with both zeros at the same place, so that comparisons can be made between integers.
-/

namespace TechCatalog.Decimal

/-- A power of two. -/
def twoPow (n : Nat) : Nat := Nat.pow 2 n

/-- A power of ten. -/
def tenPow (n : Nat) : Nat := Nat.pow 10 n

/-- What a floating-point number stands for. -/
inductive Shape where
  /-- Not a number. -/
  | nan
  /-- An infinity of the given sign. -/
  | infinite (negative : Bool)
  /-- The number `significand * 2 ^ exponent` under the given sign. -/
  | finite (negative : Bool) (significand : Nat) (exponent : Int)
  deriving DecidableEq, Repr

/-- The bits of a number without its sign. -/
def magnitudeBits (x : Float) : Nat :=
  x.toBits.toNat % twoPow 63

/-- Whether the sign bit is set. -/
def signBit (x : Float) : Bool :=
  twoPow 63 ≤ x.toBits.toNat

/-- Takes a number apart. -/
def shape (x : Float) : Shape :=
  let field : Nat := magnitudeBits x / twoPow 52
  let fraction : Nat := magnitudeBits x % twoPow 52
  if field = 0x7FF then
    if fraction = 0 then .infinite (signBit x) else .nan
  else if field = 0 then .finite (signBit x) fraction (-1074)
  else .finite (signBit x) (fraction + twoPow 52) ((field : Int) - 1075)

/-- Not a number. -/
def isNaN (x : Float) : Bool :=
  0x7FF * twoPow 52 < magnitudeBits x

/-- Neither infinite nor NaN. -/
def isFinite (x : Float) : Bool :=
  magnitudeBits x < 0x7FF * twoPow 52

/-- The place of a number in the order of all numbers; both zeros have place zero. -/
def orderKey (x : Float) : Int :=
  if signBit x then -(magnitudeBits x) else magnitudeBits x

/-- Strictly less; nothing is less or greater than NaN. -/
def below (x y : Float) : Bool :=
  !isNaN x && !isNaN y && orderKey x < orderKey y

/-- Equal in value; NaN equals nothing. -/
def same (x y : Float) : Bool :=
  !isNaN x && !isNaN y && orderKey x == orderKey y

/-- The value of a number without a fractional part, if it is one. -/
def integral? (x : Float) : Option Int :=
  match shape x with
  | .finite negative m q =>
    let sign : Int := if negative then -1 else 1
    if 0 ≤ q then some (sign * (m * twoPow q.toNat : Nat))
    else if m % twoPow (-q).toNat = 0 then some (sign * (m / twoPow (-q).toNat : Nat))
    else none
  | _ => none

end TechCatalog.Decimal
