/-!
Binary floating point numbers of 64 bits, given by their bit pattern. All arithmetic on
them is exact arithmetic on natural numbers: a finite number is a whole number of units,
each unit a power of two.
-/

namespace NodeBridge

/-- A double by its bits: the sign, eleven bits of exponent, fifty-two of fraction. -/
structure Binary64 where
  bits : UInt64
deriving DecidableEq, Inhabited, Repr

namespace Binary64

def ofParts (negative : Bool) (magnitude : Nat) : Binary64 :=
  ⟨UInt64.ofNat ((if negative then Nat.pow 2 63 else 0) + magnitude % Nat.pow 2 63)⟩

def isNegative (number : Binary64) : Bool := Nat.pow 2 63 ≤ number.bits.toNat

/-- The bits without the sign. -/
def magnitude (number : Binary64) : Nat := number.bits.toNat % Nat.pow 2 63

def exponentBits (number : Binary64) : Nat := number.magnitude / Nat.pow 2 52

def fractionBits (number : Binary64) : Nat := number.magnitude % Nat.pow 2 52

def isNaN (number : Binary64) : Bool := number.exponentBits = 2047 && number.fractionBits ≠ 0

def isInfinite (number : Binary64) : Bool :=
  number.exponentBits = 2047 && number.fractionBits = 0

def isFinite (number : Binary64) : Bool := number.exponentBits ≠ 2047

/-- How many units a finite number has, regardless of its sign. -/
def significand (number : Binary64) : Nat :=
  if number.exponentBits = 0 then number.fractionBits else Nat.pow 2 52 + number.fractionBits

def unitExponent (number : Binary64) : Int :=
  if number.exponentBits = 0 then -1074 else (number.exponentBits : Int) - 1075

/-- Equality of numbers: the zeros are one number, and what is no number is not even
itself. -/
def same (left right : Binary64) : Bool :=
  (left = right || (left.magnitude = 0 && right.magnitude = 0)) && !left.isNaN

def infinity (negative : Bool) : Binary64 := ofParts negative (2047 * Nat.pow 2 52)

def nan : Binary64 := ofParts false (2047 * Nat.pow 2 52 + Nat.pow 2 51)

/-- A quotient rounded to the nearest whole number, a tie to the even one. -/
def roundedQuotient (numerator denominator : Nat) : Nat :=
  let floor := numerator / denominator
  let twice := 2 * (numerator % denominator)
  if twice < denominator then floor
  else if denominator < twice then floor + 1
  else if floor % 2 = 0 then floor
  else floor + 1

/-- The power of two under which a positive quotient has fifty-three bits, or the least
one that there is. -/
def unitFor (numerator denominator : Nat) : Int :=
  let guess := (Nat.log2 numerator : Int) - (Nat.log2 denominator : Int) - 52
  let below : Bool :=
    if 0 ≤ guess then numerator < denominator * Nat.pow 2 (guess.toNat + 52)
    else numerator * Nat.pow 2 (-guess).toNat < denominator * Nat.pow 2 52
  max (if below then guess - 1 else guess) (-1074)

/-- The double nearest to a quotient, a tie to the even one. -/
def ofQuotient (negative : Bool) (numerator denominator : Nat) : Binary64 :=
  if numerator = 0 then ofParts negative 0
  else
    let unit := unitFor numerator denominator
    let units :=
      if 0 ≤ unit then roundedQuotient numerator (denominator * Nat.pow 2 unit.toNat)
      else roundedQuotient (numerator * Nat.pow 2 (-unit).toNat) denominator
    let magnitude := (unit + 1074).toNat * Nat.pow 2 52 + units
    if 2047 * Nat.pow 2 52 ≤ magnitude then infinity negative else ofParts negative magnitude

/-- The double nearest to a whole number times a power of ten. Beyond four hundred decimal
places on either side the answer is infinity or zero, whatever the digits. -/
def ofDecimal (negative : Bool) (digits : Nat) (exponent : Int) : Binary64 :=
  if digits = 0 then ofParts negative 0
  else
    let places := (Nat.log2 digits : Int) * 30103 / 100000 + exponent
    if 400 < places then infinity negative
    else if places < -400 then ofParts negative 0
    else if 0 ≤ exponent then ofQuotient negative (digits * Nat.pow 10 exponent.toNat) 1
    else ofQuotient negative digits (Nat.pow 10 (-exponent).toNat)

/-- A finite number that has no fraction, as a whole number. -/
def toInt? (number : Binary64) : Option Int :=
  if !number.isFinite then none
  else
    let unit := number.unitExponent
    let size? : Option Nat :=
      if 0 ≤ unit then some (number.significand * Nat.pow 2 unit.toNat)
      else if number.significand % Nat.pow 2 (-unit).toNat = 0 then
        some (number.significand / Nat.pow 2 (-unit).toNat)
      else none
    size?.map fun size => if number.isNegative then -(size : Int) else (size : Int)

def truncate? (number : Binary64) : Option Int :=
  if !number.isFinite then none
  else
    let unit := number.unitExponent
    let size :=
      if 0 ≤ unit then number.significand * Nat.pow 2 unit.toNat
      else number.significand / Nat.pow 2 (-unit).toNat
    some (if number.isNegative then -(size : Int) else (size : Int))

def ofNarrow (exponentWidth fractionWidth bits : Nat) : Binary64 :=
  let fraction := bits % Nat.pow 2 fractionWidth
  let exponent := bits / Nat.pow 2 fractionWidth % Nat.pow 2 exponentWidth
  let negative : Bool := bits / Nat.pow 2 (fractionWidth + exponentWidth) % 2 = 1
  if exponent = Nat.pow 2 exponentWidth - 1 then
    if fraction = 0 then infinity negative else nan
  else
    let bias := Nat.pow 2 (exponentWidth - 1) - 1
    let units := if exponent = 0 then fraction else Nat.pow 2 fractionWidth + fraction
    let unit : Int := (max exponent 1 : Nat) - (bias + fractionWidth : Nat)
    if 0 ≤ unit then ofQuotient negative (units * Nat.pow 2 unit.toNat) 1
    else ofQuotient negative units (Nat.pow 2 (-unit).toNat)

def ofHalfBits (bits : Nat) : Binary64 := ofNarrow 5 10 bits

def ofSingleBits (bits : Nat) : Binary64 := ofNarrow 8 23 bits

end Binary64

end NodeBridge
