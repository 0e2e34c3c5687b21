import Recordwright.Binary64.Basic

/-!
# The fewest digits that read back

A finite number owns the reals that round to it: those from halfway to its lower neighbour up to
halfway to its upper one, the ends included iff its significand is even.  `Binary64.shortest` looks
for the shortest decimal in there: on the grid of decimals with one digit, two digits and so forth
it tests the two neighbours of the number; the first grid with a hit wins, and of two hits the
nearer one, the even one when they are equally near.
-/

namespace Recordwright.Binary64

/-- The decimal number `digits * 10 ^ exponent`. -/
structure Decimal where
  digits : Nat
  exponent : Int
  deriving DecidableEq, Repr

/-- The reals that round to a number, as numerators over one denominator: the lower end, the number
itself and the upper end. -/
structure Interval where
  low : Nat
  value : Nat
  high : Nat
  denominator : Nat
  endsIncluded : Bool

/-- The interval of a finite number.  Below a power of two the neighbours lie twice as dense. -/
def interval (x : Binary64) : Interval :=
  let m := x.significand
  let up := Nat.pow 2 (x.scale - 2).toNat
  { low := (if m = exponentWeight ∧ 2 * exponentWeight ≤ x.magnitude then 4 * m - 1 else 4 * m - 2) * up
    value := 4 * m * up
    high := (4 * m + 2) * up
    denominator := Nat.pow 2 (2 - x.scale).toNat
    endsIncluded := m % 2 == 0 }

/-- Is the decimal `d * 10 ^ k` at or above the lower end? -/
def Interval.reachedBy (i : Interval) (d : Nat) (k : Int) : Bool :=
  let a := i.low * Nat.pow 10 (-k).toNat
  let b := d * Nat.pow 10 k.toNat * i.denominator
  if i.endsIncluded then a ≤ b else a < b

/-- Is the decimal `d * 10 ^ k` at or below the upper end? -/
def Interval.notPassedBy (i : Interval) (d : Nat) (k : Int) : Bool :=
  let a := d * Nat.pow 10 k.toNat * i.denominator
  let b := i.high * Nat.pow 10 (-k).toNat
  if i.endsIncluded then a ≤ b else a < b

/-- The greatest multiple of `10 ^ k` not above the number, divided by `10 ^ k`. -/
def Interval.below (i : Interval) (k : Int) : Nat :=
  i.value * Nat.pow 10 (-k).toNat / (i.denominator * Nat.pow 10 k.toNat)

/-- The decimal of the grid `10 ^ k` that is nearest to the number among those in the interval. -/
def Interval.onGrid? (i : Interval) (k : Int) : Option Nat :=
  let a := i.below k
  let lowHit := i.reachedBy a k
  let highHit := i.notPassedBy (a + 1) k
  if lowHit && highHit then
    let twice := 2 * i.value * Nat.pow 10 (-k).toNat
    let middle := (2 * a + 1) * Nat.pow 10 k.toNat * i.denominator
    some (if twice < middle then a else if middle < twice then a + 1 else a + a % 2)
  else if lowHit then some a
  else if highHit then some (a + 1)
  else none

/-- The exponent of the first decimal digit of `num / den`, found from an estimate that is not too
low. -/
def firstDigit (num den : Nat) : Nat → Int → Int
  | 0, k => k
  | steps + 1, k =>
    if den * Nat.pow 10 k.toNat ≤ num * Nat.pow 10 (-k).toNat then k else firstDigit num den steps (k - 1)

/-- The grids with one digit, two digits and so forth, from the exponent `k` downwards. -/
def Interval.search (i : Interval) : Nat → Int → Decimal
  | 0, k => ⟨i.below k, k⟩
  | more + 1, k =>
    match i.onGrid? k with
    | some d => ⟨d, k⟩
    | none => i.search more (k - 1)

/-- The decimal without zeros at its end. -/
def Decimal.trimmed : Nat → Decimal → Decimal
  | 0, d => d
  | more + 1, d =>
    if d.digits ≠ 0 ∧ d.digits % 10 = 0 then
      Decimal.trimmed more ⟨d.digits / 10, d.exponent + 1⟩
    else d

/-- An estimate of the exponent of the first decimal digit, never too low. -/
def estimate (x : Binary64) : Int :=
  ((x.significand.log2 + 1 : Int) + x.scale) * 30103 / 100000 + 1

/-- The shortest decimal that rounds to the magnitude of a finite number that is not zero. -/
def shortest (x : Binary64) : Decimal :=
  let i := x.interval
  let k := firstDigit i.value i.denominator 4 x.estimate
  (i.search 17 k).trimmed 20

end Recordwright.Binary64
