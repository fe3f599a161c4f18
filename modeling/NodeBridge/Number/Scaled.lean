import NodeBridge.Number.Exact
import NodeBridge.Text.Integer

/-!
Decimal numbers with their scale: a whole number times a power of ten, where trailing zeros
count. A whole number times a power of two becomes a decimal of at most twenty-eight
digits; what does not fit is rounded to the nearest, a tie to the even one.
-/

namespace NodeBridge.Number

structure Scaled where
  coefficient : Int
  exponent : Int
deriving DecidableEq, Repr

namespace Scaled

def exact (number : Scaled) : Exact := ⟨number.coefficient, 1, number.exponent⟩

def isZero (number : Scaled) : Bool := number.coefficient = 0

/-- The greatest power of ten that a first digit can have. -/
def greatestExponent : Int := 999999999999999999

/-- The least power of ten that a last digit can have. -/
def leastExponent : Int := -1999999999999999997

/-- How many digits a number has; zero has one. The guess from the binary length is at
most one too low. -/
def digitCount (value : Nat) : Nat :=
  let guess := Nat.log2 value * 30102 / 100000
  if value < Nat.pow 10 guess then guess
  else if value < Nat.pow 10 (guess + 1) then guess + 1
  else if value < Nat.pow 10 (guess + 2) then guess + 2
  else (Text.naturalDigits value).length

/-- The power of ten of the first digit. -/
def magnitude (number : Scaled) : Int :=
  number.exponent + (max (digitCount number.coefficient.natAbs) 1 : Nat) - 1

/-- A decimal whose powers of ten are within the limits. -/
def of? (coefficient exponent : Int) : Option Scaled :=
  let number : Scaled := ⟨coefficient, exponent⟩
  if leastExponent ≤ exponent ∧ number.magnitude ≤ greatestExponent then some number else none

def precision : Nat := 28

/-- The greatest power of ten that a first digit can have after arithmetic. -/
def greatestRounded : Int := 999999

/-- The least power of ten that a last digit can have after arithmetic. -/
def leastRounded : Int := -1000026

/-- A number of units of a power of ten with no more digits than are kept. -/
def round (negative : Bool) (size : Nat) (exponent : Int) : Scaled :=
  let surplus := digitCount size - precision
  let kept := Binary64.roundedQuotient size (Nat.pow 10 surplus)
  let (kept, surplus) :=
    if kept = Nat.pow 10 precision then (Nat.pow 10 (precision - 1), surplus + 1)
    else (kept, surplus)
  ⟨if negative then -(kept : Int) else kept, exponent + surplus⟩

/-- The decimal of a power of two, rounded. -/
def powerOfTwo (exponent : Int) : Scaled :=
  if 0 ≤ exponent then round false (Nat.pow 2 exponent.toNat) 0
  else round false (Nat.pow 5 (-exponent).toNat) exponent

/-- The decimal of a whole number times a power of two. Powers too great have none; powers
too small leave nothing. -/
def ofBinary? (coefficient exponent : Int) : Option Scaled :=
  if 3321928 < exponent then none
  else if exponent < -3321928 then some ⟨0, leastRounded⟩
  else
    let power := powerOfTwo exponent
    let number := round (coefficient < 0) (coefficient.natAbs * power.coefficient.natAbs)
      power.exponent
    if number.magnitude ≤ greatestRounded then some number else none

/-- A decimal in writing: plain where no zeros stand before the point, or at most five
after it, and with a power of ten otherwise. -/
def chars (number : Scaled) : List Char :=
  let digits := Text.naturalDigits number.coefficient.natAbs
  let places := (digits.length : Int) + number.exponent
  let size :=
    if number.exponent = 0 then digits
    else if number.exponent < 0 ∧ -6 < places then
      if 0 < places then digits.take places.toNat ++ '.' :: digits.drop places.toNat
      else '0' :: '.' :: List.replicate (-places).toNat '0' ++ digits
    else
      let fraction := if digits.length ≤ 1 then [] else '.' :: digits.drop 1
      let exponent := places - 1
      digits.take 1 ++ fraction ++ 'E' :: (if exponent < 0 then '-' else '+') ::
        Text.naturalDigits exponent.natAbs
  if number.coefficient < 0 then '-' :: size else size

/-- A decimal inside a message. -/
def shownChars (number : Scaled) : List Char :=
  "Decimal('".toList ++ number.chars ++ ['\'', ')']

end Scaled

end NodeBridge.Number
