import NodeBridge.Text.Utf8

/-!
Bytes as pairs of hexadecimal digits. Writing uses lower case. Reading takes either case
and allows plain white space before, between and after pairs, never inside one.
-/

namespace NodeBridge.Text

def hexDigits : List Char :=
  ['0', '1', '2', '3', '4', '5', '6', '7', '8', '9', 'a', 'b', 'c', 'd', 'e', 'f']

def hexDigit (value : Nat) : Char := hexDigits.getD (value % 16) '0'

def hexValue? (char : Char) : Option Nat :=
  if '0' ≤ char ∧ char ≤ '9' then some (char.toNat - '0'.toNat)
  else if 'a' ≤ char ∧ char ≤ 'f' then some (char.toNat - 'a'.toNat + 10)
  else if 'A' ≤ char ∧ char ≤ 'F' then some (char.toNat - 'A'.toNat + 10)
  else none

def hexPair (value : UInt8) : List Char :=
  [hexDigit (value.toNat / 16), hexDigit value.toNat]

def encodeHexChars (bytes : Bytes) : List Char := bytes.flatMap hexPair

def encodeHex (bytes : Bytes) : String := String.ofList (encodeHexChars bytes)

/-- White space that may stand between pairs: tab, line feed, vertical tab, form feed,
carriage return and space. -/
def isGap (char : Char) : Bool :=
  char = ' ' || (0x9 ≤ char.toNat && char.toNat ≤ 0xd)

def decodeHexChars : List Char → Option Bytes
  | [] => some []
  | [char] => if isGap char then some [] else none
  | high :: low :: rest =>
      if isGap high then decodeHexChars (low :: rest)
      else do
        let upper ← hexValue? high
        let lower ← hexValue? low
        some (byte (16 * upper + lower) :: (← decodeHexChars rest))

def decodeHex (text : String) : Option Bytes := decodeHexChars text.toList

end NodeBridge.Text
