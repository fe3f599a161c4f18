import NodeBridge.Text.Hex
import NodeBridge.Text.Printable

/-!
Text shown inside a message. It stands in single quotes, or in double quotes when it
holds a single quote and no double one. The backslash, the quote in use, line feed,
carriage return and tab are written with a backslash, and so is each character that
cannot be shown, by its code point.
-/

namespace NodeBridge.Text

/-- The last `width` hexadecimal digits of a number. -/
def hexCode : (width value : Nat) → List Char
  | 0, _ => []
  | width + 1, value => hexCode width (value / 16) ++ [hexDigit value]

def escapeCode (code : Nat) : List Char :=
  if code < 0x100 then '\\' :: 'x' :: hexCode 2 code
  else if code < 0x10000 then '\\' :: 'u' :: hexCode 4 code
  else '\\' :: 'U' :: hexCode 8 code

def quotedChar (quote char : Char) : List Char :=
  if char = quote ∨ char = '\\' then ['\\', char]
  else if char = '\n' then ['\\', 'n']
  else if char = '\r' then ['\\', 'r']
  else if char = '\t' then ['\\', 't']
  else if isPrintable char then [char]
  else escapeCode char.toNat

/-- The quote in use: the double one only where it saves an escape. -/
def quoteFor (text : List Char) : Char :=
  if text.contains '\'' && !text.contains '"' then '"' else '\''

def quotedChars (text : List Char) : List Char :=
  let quote := quoteFor text
  quote :: text.flatMap (quotedChar quote) ++ [quote]

def quoted (text : String) : String := String.ofList (quotedChars text.toList)

/-- A byte string shown inside a message: the letter b and a quoted text in which only
the bytes of plain characters stand for themselves. -/
def quotedByte (quote : Char) (value : UInt8) : List Char :=
  let char := Char.ofNat value.toNat
  if char = quote ∨ char = '\\' then ['\\', char]
  else if char = '\n' then ['\\', 'n']
  else if char = '\r' then ['\\', 'r']
  else if char = '\t' then ['\\', 't']
  else if 0x20 ≤ value.toNat ∧ value.toNat < 0x7f then [char]
  else '\\' :: 'x' :: hexCode 2 value.toNat

def quotedBytes (bytes : Bytes) : List Char :=
  let quote := quoteFor (bytes.map fun value => Char.ofNat value.toNat)
  'b' :: quote :: bytes.flatMap (quotedByte quote) ++ [quote]

end NodeBridge.Text
