import Recordwright.Binary64.Shortest

/-!
# The text of a number

A number is written with the fewest digits that read back.  A `Layout` says from which to which
exponent of the first digit the digits stand in their places; outside of that range the exponent is
written out.
-/

namespace Recordwright.Binary64

/-- How the digits of a number are laid out. -/
structure Layout where
  /-- The least exponent of the first digit that is written in places. -/
  leastPlain : Int
  /-- The greatest exponent of the first digit that is written in places. -/
  greatestPlain : Int

/-- Numbers are written in places from the fifth place behind the point to sixteen places before
it, always with a fraction; other numbers have their exponent written with its sign. -/
def layout : Layout := ⟨-5, 15⟩

/-- The digits of a natural number in base ten. -/
def decimalDigits (n : Nat) : List Char := Nat.toDigits 10 n

/-- The exponent of the first digit of a decimal. -/
def Decimal.lead (d : Decimal) : Int := (decimalDigits d.digits).length + d.exponent - 1

/-- The digits in their places, with a fraction. -/
def Decimal.plain (d : Decimal) : List Char :=
  let ds := decimalDigits d.digits
  if 0 ≤ d.exponent then
    ds ++ List.replicate d.exponent.toNat '0' ++ ['.', '0']
  else
    let places := (-d.exponent).toNat
    if places < ds.length then
      ds.take (ds.length - places) ++ '.' :: ds.drop (ds.length - places)
    else
      ['0', '.'] ++ List.replicate (places - ds.length) '0' ++ ds

/-- One digit, the others behind a point, and the exponent of the first. -/
def Decimal.scientific (d : Decimal) : List Char :=
  let e := d.lead
  let exponent := 'e' :: (if e < 0 then '-' else '+') :: decimalDigits e.natAbs
  match decimalDigits d.digits with
  | [] => exponent
  | [c] => c :: exponent
  | c :: rest => c :: '.' :: rest ++ exponent

/-- A decimal in this layout. -/
def Decimal.text (l : Layout) (d : Decimal) : List Char :=
  if l.leastPlain ≤ d.lead ∧ d.lead ≤ l.greatestPlain then d.plain else d.scientific

/-- The text of a finite number. -/
def finiteText (x : Binary64) : List Char :=
  let digits := if x.magnitude = 0 then ['0', '.', '0'] else x.shortest.text layout
  if x.isNegative then '-' :: digits else digits

/-- The text of any number. -/
def text (x : Binary64) : String :=
  if x.isFinite then String.ofList x.finiteText
  else if x.isNaN then "NaN"
  else if x.isNegative then "-inf" else "inf"

end Recordwright.Binary64
