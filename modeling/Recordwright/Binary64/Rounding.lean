import Recordwright.Binary64.Basic

/-!
# Rounding a ratio

`Binary64.ofRatio` is the magnitude nearest to a ratio of natural numbers, a half going to the even
neighbour: the ratio is divided by the power of two that leaves fifty-three digits (fewer below the
normal numbers), the quotient is rounded, and the bits are packed.  A quotient that rounds up to the
next power of two carries into the exponent by itself, and what reaches the bits of infinity is
infinite.
-/

namespace Recordwright.Binary64

/-- `num / den` rounded to the nearest natural number, a half to the even neighbour. -/
def roundedQuotient (num den : Nat) : Nat :=
  let q := num / den
  let r := num % den
  if 2 * r < den then q
  else if den < 2 * r then q + 1
  else q + q % 2

/-- The exponent of the greatest power of two not above `num / den`. -/
def floorLog (num den : Nat) : Int :=
  let k : Int := (num.log2 : Int) - den.log2
  if 0 ≤ k then
    if num < den * Nat.pow 2 k.toNat then k - 1 else k
  else
    if num * Nat.pow 2 (-k).toNat < den then k - 1 else k

/-- The bits of the magnitude nearest to `num / den`. -/
def ratioBits (num den : Nat) : Nat :=
  if num = 0 then 0
  else
    let e : Int := max (floorLog num den - 52) (-1074)
    let m :=
      if 0 ≤ e then roundedQuotient num (den * Nat.pow 2 e.toNat)
      else roundedQuotient (num * Nat.pow 2 (-e).toNat) den
    min infinityBits ((e + 1074).toNat * exponentWeight + m)

/-- The number nearest to `num / den`. -/
def ofRatio (num den : Nat) : Binary64 := ofMagnitude false (ratioBits num den)

/-- The number nearest to `n`. -/
def ofNat (n : Nat) : Binary64 := ofRatio n 1

/-- The number nearest to the integer `n`. -/
def ofInt (n : Int) : Binary64 :=
  if n < 0 then (ofNat n.natAbs).negate else ofNat n.natAbs

/-- The numerator of a finite magnitude. -/
def numerator (x : Binary64) : Nat := x.significand * Nat.pow 2 x.scale.toNat

/-- The denominator of a finite magnitude. -/
def denominator (x : Binary64) : Nat := Nat.pow 2 (-x.scale).toNat

/-- The rounded product of two finite magnitudes. -/
def mul (x y : Binary64) : Binary64 :=
  ofRatio (x.numerator * y.numerator) (x.denominator * y.denominator)

/-- The rounded quotient of two finite magnitudes. -/
def div (x y : Binary64) : Binary64 :=
  ofRatio (x.numerator * y.denominator) (x.denominator * y.numerator)

end Recordwright.Binary64
