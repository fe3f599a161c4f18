import NodeBridge.Text.Hex

/-!
Bytes as groups of four digits of base 64 with the standard alphabet. Reading is strict
about the alphabet and about padding: a group that is cut short must be filled up to four
with the padding sign and must end the text. Bits beyond the last whole byte are dropped,
and padding after whole groups only is idle.
-/

namespace NodeBridge.Text

def base64Digits : List Char :=
  "ABCDEFGHIJKLMNOPQRSTUVWXYZabcdefghijklmnopqrstuvwxyz0123456789+/".toList

def base64Digit (value : Nat) : Char := base64Digits.getD (value % 64) 'A'

def base64Value? (char : Char) : Option Nat :=
  if 'A' ≤ char ∧ char ≤ 'Z' then some (char.toNat - 'A'.toNat)
  else if 'a' ≤ char ∧ char ≤ 'z' then some (char.toNat - 'a'.toNat + 26)
  else if '0' ≤ char ∧ char ≤ '9' then some (char.toNat - '0'.toNat + 52)
  else if char = '+' then some 62
  else if char = '/' then some 63
  else none

def encodeBase64Chars : Bytes → List Char
  | [] => []
  | [first] =>
      let bits := first.toNat * 0x10000
      [base64Digit (bits / 0x40000), base64Digit (bits / 0x1000), '=', '=']
  | [first, second] =>
      let bits := first.toNat * 0x10000 + second.toNat * 0x100
      [base64Digit (bits / 0x40000), base64Digit (bits / 0x1000), base64Digit (bits / 0x40), '=']
  | first :: second :: third :: rest =>
      let bits := first.toNat * 0x10000 + second.toNat * 0x100 + third.toNat
      base64Digit (bits / 0x40000) :: base64Digit (bits / 0x1000) :: base64Digit (bits / 0x40) ::
        base64Digit bits :: encodeBase64Chars rest

def encodeBase64 (bytes : Bytes) : String := String.ofList (encodeBase64Chars bytes)

/-- Reads groups; `idle` says that a whole group came before, so padding may follow. -/
def decodeBase64Groups (idle : Bool) : List Char → Option Bytes
  | [] => some []
  | first :: second :: third :: fourth :: rest =>
      if idle && (first :: second :: third :: fourth :: rest).all (· = '=') then some []
      else do
        let one ← base64Value? first
        let two ← base64Value? second
        if third = '=' then
          if fourth = '=' ∧ rest = [] then some [byte (one * 4 + two / 0x10)] else none
        else
          let three ← base64Value? third
          if fourth = '=' then
            if rest = [] then
              some [byte (one * 4 + two / 0x10), byte (two * 0x10 + three / 4)]
            else none
          else
            let four ← base64Value? fourth
            some (byte (one * 4 + two / 0x10) :: byte (two * 0x10 + three / 4) ::
              byte (three * 0x40 + four) :: (← decodeBase64Groups true rest))
  | short => if idle && short.all (· = '=') then some [] else none

def decodeBase64 (text : String) : Option Bytes := decodeBase64Groups false text.toList

/-- Base 64 as hexadecimal digits; a text that is not base 64 stays as it is. -/
def base64ToHex (text : String) : String := ((decodeBase64 text).map encodeHex).getD text

/-- Hexadecimal digits as base 64; a text that is not hexadecimal stays as it is. -/
def hexToBase64 (text : String) : String := ((decodeHex text).map encodeBase64).getD text

end NodeBridge.Text
