/-!
# Binary floating-point numbers of 64 bits

A number is carried by its bits, so that every payload of a NaN and both zeros stay apart.  The
comparison of the standard is `Binary64.equal`: a NaN equals nothing, and the two zeros are equal.
A finite magnitude is `significand * 2 ^ scale`.
-/

namespace Recordwright

/-- A binary floating-point number, given by its sign bit, eleven exponent bits and fifty-two
fraction bits. -/
structure Binary64 where
  bits : UInt64
  deriving DecidableEq, Repr

namespace Binary64

/-- The weight of the sign bit, which follows sixty-three others. -/
def signWeight : Nat := 0x8000000000000000

/-- The weight of the lowest exponent bit, which follows the fifty-two fraction bits. -/
def exponentWeight : Nat := 0x10000000000000

/-- The bits without the sign. -/
def magnitude (x : Binary64) : Nat := x.bits.toNat % signWeight

/-- Is the sign bit set? -/
def isNegative (x : Binary64) : Bool := x.bits.toNat / signWeight == 1

/-- The bits of infinity without the sign. -/
def infinityBits : Nat := 0x7FF * exponentWeight

/-- Not a number: above infinity. -/
def isNaN (x : Binary64) : Bool := infinityBits < x.magnitude

/-- Neither infinite nor a NaN. -/
def isFinite (x : Binary64) : Bool := x.magnitude < infinityBits

/-- Equality of the standard: numbers compare by value. -/
def equal (x y : Binary64) : Bool :=
  !x.isNaN && !y.isNaN && (x.bits == y.bits || (x.magnitude == 0 && y.magnitude == 0))

/-- The number of this sign and magnitude. -/
def ofMagnitude (negative : Bool) (magnitude : Nat) : Binary64 :=
  ⟨UInt64.ofNat (magnitude % signWeight + (if negative then signWeight else 0))⟩

/-- Positive zero. -/
def zero : Binary64 := ⟨0⟩

/-- The number with the opposite sign bit. -/
def negate (x : Binary64) : Binary64 := ofMagnitude (!x.isNegative) x.magnitude

/-- The integer significand of a finite number. -/
def significand (x : Binary64) : Nat :=
  if x.magnitude / exponentWeight = 0 then x.magnitude
  else x.magnitude % exponentWeight + exponentWeight

/-- The power of two that scales the significand of a finite number. -/
def scale (x : Binary64) : Int :=
  if x.magnitude / exponentWeight = 0 then -1074
  else (x.magnitude / exponentWeight : Nat) - 1075

@[simp] theorem magnitude_zero : zero.magnitude = 0 := rfl

/-- The comparison is symmetric. -/
theorem equal_comm (x y : Binary64) : x.equal y = y.equal x := by
  have hbits : (x.bits == y.bits) = (y.bits == x.bits) := BEq.comm
  simp only [equal, hbits, Bool.and_comm]

/-- A NaN equals nothing. -/
theorem equal_of_isNaN {x : Binary64} (h : x.isNaN = true) (y : Binary64) :
    x.equal y = false := by
  simp [equal, h]

/-- A number that is no NaN equals itself. -/
theorem equal_self {x : Binary64} (h : x.isNaN = false) : x.equal x = true := by
  simp [equal, h]

end Binary64

end Recordwright
