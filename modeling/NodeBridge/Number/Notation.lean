import NodeBridge.Number.Shortest
import NodeBridge.Text.Integer

/-!
How a double is written. The digits are the fewest that name it; whether they stand
around a decimal point or with a power of ten is decided by the exponent alone.
-/

namespace NodeBridge.Number

/-- The choices of one way to write doubles. -/
structure Layout where
  /-- The least power of ten of the first digit that is written without exponent. -/
  positionalFrom : Int
  /-- The least power of ten of the first digit that is written with exponent again. -/
  positionalBelow : Int
  /-- The least number of digits of an exponent. -/
  exponentWidth : Nat
  nan : String
  infinity : String

/-- Doubles inside messages: plain from 1e-4 up to below 1e16. -/
def Layout.message : Layout := ⟨-4, 16, 2, "nan", "inf"⟩

/-- Doubles inside documents. -/
def Layout.document : Layout := ⟨-4, 16, 2, "NaN", "Infinity"⟩

/-- Digits with the decimal point after the first `places` of them. At least one digit
stands on either side. -/
def positional (digits : List Char) (places : Int) : List Char :=
  if places ≤ 0 then '0' :: '.' :: List.replicate (-places).toNat '0' ++ digits
  else
    let whole := places.toNat
    if digits.length ≤ whole then
      digits ++ List.replicate (whole - digits.length) '0' ++ ['.', '0']
    else digits.take whole ++ '.' :: digits.drop whole

/-- Digits with the point after the first one and a power of ten. -/
def scientific (width : Nat) (digits : List Char) (exponent : Int) : List Char :=
  let fraction := if digits.length ≤ 1 then [] else '.' :: digits.drop 1
  let size := Text.naturalDigits exponent.natAbs
  digits.take 1 ++ fraction ++ 'e' :: (if exponent < 0 then '-' else '+') ::
    (List.replicate (width - size.length) '0' ++ size)

/-- Decimal digits without the zeros they end in; zero keeps one digit. -/
def significantDigits (decimal : Decimal) : List Char :=
  match ((Text.naturalDigits decimal.digits).reverse.dropWhile (· = '0')).reverse with
  | [] => ['0']
  | digits => digits

def Layout.magnitude (layout : Layout) (number : Binary64) : List Char :=
  if number.magnitude = 0 then ['0', '.', '0']
  else
    let decimal := shortest number
    let places := ((Text.naturalDigits decimal.digits).length : Int) + decimal.exponent
    let digits := significantDigits decimal
    if layout.positionalFrom ≤ places - 1 ∧ places - 1 < layout.positionalBelow then
      positional digits places
    else scientific layout.exponentWidth digits (places - 1)

def Layout.chars (layout : Layout) (number : Binary64) : List Char :=
  if number.isNaN then layout.nan.toList
  else
    (if number.isNegative then ['-'] else []) ++
      if number.isInfinite then layout.infinity.toList else layout.magnitude number

end NodeBridge.Number
