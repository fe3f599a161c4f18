import NodeBridge.Text.CharClass

/-!
Whole numbers in writing. A number is written with a minus sign and plain digits; it is
read with more freedom: white space around it, either sign, digits of any script, and a
single low line between two digits. What is written is read back.
-/

namespace NodeBridge.Text

/-- The digits of a number without sign. -/
def naturalDigits (value : Nat) : List Char := Nat.toDigits 10 value

def integerDigits : Int → List Char
  | .ofNat value => naturalDigits value
  | .negSucc value => '-' :: naturalDigits (value + 1)

def integerText (value : Int) : String := String.ofList (integerDigits value)

def digitLimit : Nat := 4300

/-- Whether a number has more digits than writing allows. -/
def isTooLong (value : Int) : Bool := Nat.pow 10 digitLimit ≤ value.natAbs

/-- White space that may stand around a number. The separators U+001C to U+001F may not. -/
def isPadding (char : Char) : Bool :=
  isBlank char && !(0x1c ≤ char.toNat && char.toNat ≤ 0x1f)

def trimPadding (input : List Char) : List Char :=
  ((input.dropWhile isPadding).reverse.dropWhile isPadding).reverse

/-- Reads on after a digit. A low line must have a digit on either side. -/
def readDigits (value : Nat) : List Char → Option Nat
  | [] => some value
  | '_' :: char :: rest => do
      let digit ← digitValue? char
      readDigits (10 * value + digit) rest
  | char :: rest => do
      let digit ← digitValue? char
      readDigits (10 * value + digit) rest

def readNatural : List Char → Option Nat
  | [] => none
  | char :: rest =>
      if digitLimit < ((char :: rest).filter (· ≠ '_')).length then none
      else do
        let digit ← digitValue? char
        readDigits digit rest

def readInteger (input : List Char) : Option Int :=
  match trimPadding input with
  | '-' :: rest => (readNatural rest).map fun value => -(value : Int)
  | '+' :: rest => (readNatural rest).map fun value => (value : Int)
  | rest => (readNatural rest).map fun value => (value : Int)

end NodeBridge.Text
