import NodeBridge.Number.Binary64

/-!
The fewest decimal digits that name a double. A decimal names the double that it rounds
to, so the decimals of a double fill an interval around it; its ends belong to it if and
only if the significand is even. For one, two, up to seventeen digits the two neighbours of
the double on the grid of that many digits are tried; the first grid that has a hit gives
the digits, and of two hits the nearer one, the even one at a tie.
-/

namespace NodeBridge.Number

structure Ratio where
  numerator : Nat
  denominator : Nat

namespace Ratio

def le (left right : Ratio) : Bool :=
  left.numerator * right.denominator ≤ right.numerator * left.denominator

def lt (left right : Ratio) : Bool :=
  left.numerator * right.denominator < right.numerator * left.denominator

def ofScaled (base units : Nat) (exponent : Int) : Ratio :=
  if 0 ≤ exponent then ⟨units * Nat.pow base exponent.toNat, 1⟩
  else ⟨units, Nat.pow base (-exponent).toNat⟩

def floorAt (ratio : Ratio) (exponent : Int) : Nat :=
  if 0 ≤ exponent then ratio.numerator / (ratio.denominator * Nat.pow 10 exponent.toNat)
  else ratio.numerator * Nat.pow 10 (-exponent).toNat / ratio.denominator

end Ratio

/-- The decimals that name one double: from `low` to `high` around `value`. -/
structure Interval where
  low : Ratio
  value : Ratio
  high : Ratio
  closed : Bool

/-- The interval of a positive finite double. Below a power of two the doubles stand
twice as close as above it. -/
def Interval.around (number : Binary64) : Interval :=
  let units := number.significand
  let unit := number.unitExponent
  let narrow : Bool := number.fractionBits = 0 && 1 < number.exponentBits
  { low := Ratio.ofScaled 2 (if narrow then 4 * units - 1 else 4 * units - 2) (unit - 2)
    value := Ratio.ofScaled 2 units unit
    high := Ratio.ofScaled 2 (4 * units + 2) (unit - 2)
    closed := units % 2 = 0 }

def Interval.holds (interval : Interval) (decimal : Ratio) : Bool :=
  if interval.closed then interval.low.le decimal && decimal.le interval.high
  else interval.low.lt decimal && decimal.lt interval.high

structure Decimal where
  digits : Nat
  exponent : Int
deriving DecidableEq, Repr

/-- Is the upper of two neighbours on a grid nearer than the lower one, or as near and
even? -/
def prefersUpper (value : Ratio) (lower : Nat) (exponent : Int) : Bool :=
  let middle := Ratio.ofScaled 10 (10 * lower + 5) (exponent - 1)
  if middle.lt value then true
  else if value.lt middle then false
  else lower % 2 = 1

/-- The hit on one grid, if there is one. -/
def Interval.hit? (interval : Interval) (exponent : Int) : Option Decimal :=
  let lower := interval.value.floorAt exponent
  let lowerHits := interval.holds (Ratio.ofScaled 10 lower exponent)
  let upperHits := interval.holds (Ratio.ofScaled 10 (lower + 1) exponent)
  match lowerHits, upperHits with
  | true, true =>
      some ⟨if prefersUpper interval.value lower exponent then lower + 1 else lower, exponent⟩
  | true, false => some ⟨lower, exponent⟩
  | false, true => some ⟨lower + 1, exponent⟩
  | false, false => none

/-- How many digits a positive ratio has before the decimal point; zero and negative
counts say how far behind the point the digits begin. -/
def digitsBefore (ratio : Ratio) : Int :=
  let guess := ((Nat.log2 ratio.numerator : Int) - (Nat.log2 ratio.denominator : Int)) *
    30103 / 100000
  ([guess - 1, guess, guess + 1, guess + 2].find? fun count =>
    ratio.lt (Ratio.ofScaled 10 1 count)).getD (guess + 3)

def shortest (number : Binary64) : Decimal :=
  let interval := Interval.around number
  let places := digitsBefore interval.value
  ((List.range 17).findSome? fun (count : Nat) => interval.hit? (places - count - 1)).getD
    ⟨number.significand, 0⟩

end NodeBridge.Number
