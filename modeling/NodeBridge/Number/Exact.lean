import NodeBridge.Number.Shortest

/-!
The exact value of a number of any kind, as a quotient of whole numbers times a power of
ten, so that numbers of different kinds can be compared. Powers of ten are only written
out where the two values can be of the same size.
-/

namespace NodeBridge.Number

structure Exact where
  numerator : Int
  denominator : Nat
  exponent : Int
deriving DecidableEq, Repr

namespace Exact

def ofInt (value : Int) : Exact := ⟨value, 1, 0⟩

def ofDouble? (number : Binary64) : Option Exact :=
  if number.isFinite then
    let ratio := Ratio.ofScaled 2 number.significand number.unitExponent
    some ⟨if number.isNegative then -(ratio.numerator : Int) else ratio.numerator,
      ratio.denominator, 0⟩
  else none

/-- Whether the left value is the right one, where the left power of ten is not lower. -/
def sameScaled (left right : Exact) (gap : Nat) : Bool :=
  if Nat.log2 (right.numerator.natAbs * left.denominator) < gap then false
  else
    left.numerator * (Nat.pow 10 gap : Nat) * right.denominator =
      right.numerator * left.denominator

def same (left right : Exact) : Bool :=
  if left.numerator = 0 ∨ right.numerator = 0 then left.numerator = right.numerator
  else if right.exponent ≤ left.exponent then
    sameScaled left right (left.exponent - right.exponent).toNat
  else sameScaled right left (right.exponent - left.exponent).toNat

end Exact

end NodeBridge.Number
