import TechCatalog.Decimal.Shortest

/-!
# How numbers are written

A floating-point number is written with the fewest digits that read back. From `0.0001` up to but
not including `10 ^ 16` the notation is positional and always has a point; outside it is scientific
with a signed exponent of at least two digits.
-/

namespace TechCatalog.Decimal

/-- The choices a notation makes. -/
structure Style where
  /-- The least exponent of the leading digit that is written positionally. -/
  leastPositional : Int
  /-- The first exponent of the leading digit that is written scientifically. -/
  firstScientific : Int
  /-- The least number of digits of an exponent. -/
  exponentDigits : Nat
  /-- The text of NaN. -/
  nan : String
  /-- The text of the positive infinity. -/
  infinity : String

/-- The decimal digits of a natural number. -/
def digitsOf (n : Nat) : List Char :=
  (Nat.repr n).toList

/-- Text filled up with zeros on the left. -/
def padLeft (width : Nat) (s : List Char) : List Char :=
  List.replicate (width - s.length) '0' ++ s

/-- A decimal in positional notation, `point` digits before the point. -/
def positional (ds : List Char) (point : Int) : List Char :=
  if point ≤ 0 then '0' :: '.' :: (List.replicate (-point).toNat '0' ++ ds)
  else if ds.length ≤ point.toNat then
    ds ++ List.replicate (point.toNat - ds.length) '0' ++ ['.', '0']
  else ds.take point.toNat ++ '.' :: ds.drop point.toNat

/-- A decimal in scientific notation, with the exponent of its leading digit. -/
def scientific (style : Style) (ds : List Char) (e : Int) : List Char :=
  let head := match ds with
    | [] => ['0']
    | [d] => [d]
    | d :: rest => d :: '.' :: rest
  head ++ 'e' :: (if e < 0 then '-' else '+') ::
    padLeft style.exponentDigits (digitsOf e.natAbs)

/-- A number in the given style. -/
def write (style : Style) (x : Float) : String :=
  match shape x with
  | .nan => style.nan
  | .infinite negative => if negative then "-" ++ style.infinity else style.infinity
  | .finite negative m q =>
    let body :=
      if m = 0 then ['0', '.', '0']
      else
        let d := shortest m q
        let ds := digitsOf d.digits
        let e := d.exponent + ds.length - 1
        if style.leastPositional ≤ e ∧ e < style.firstScientific then positional ds (e + 1)
        else scientific style ds e
    String.ofList (if negative then '-' :: body else body)

/-- The style of numbers inside messages. -/
def plainStyle : Style := ⟨-4, 16, 2, "nan", "inf"⟩

/-- The style of numbers inside documents, which has words of its own where no digits exist. -/
def documentStyle : Style := ⟨-4, 16, 2, "NaN", "Infinity"⟩

end TechCatalog.Decimal
