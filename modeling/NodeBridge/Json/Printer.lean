import NodeBridge.Json.Basic
import NodeBridge.Number.Notation
import NodeBridge.Text.Hex
import NodeBridge.Text.Quoted

/-!
Writing documents in one line without blanks. The two forms differ in what they escape:
the plain one writes characters beyond ASCII as they are, the other one by their codes.
-/

namespace NodeBridge.Json

/-- A code of four hexadecimal digits in an escape. -/
def codeEscape (code : Nat) : List Char := '\\' :: 'u' :: Text.hexCode 4 code

def commonEscape? : Char → Option (List Char)
  | '"' => some ['\\', '"']
  | '\\' => some ['\\', '\\']
  | '\n' => some ['\\', 'n']
  | '\r' => some ['\\', 'r']
  | '\t' => some ['\\', 't']
  | '\x08' => some ['\\', 'b']
  | '\x0c' => some ['\\', 'f']
  | char => if char.toNat < 0x20 then some (codeEscape char.toNat) else none

/-- Escapes only what must be. -/
def plainChar (char : Char) : List Char := (commonEscape? char).getD [char]

/-- Escapes all that is not a visible ASCII character or a space; beyond U+FFFF by the
two halves of a surrogate pair. -/
def asciiChar (char : Char) : List Char :=
  match commonEscape? char with
  | some escape => escape
  | none =>
      let code := char.toNat
      if code < 0x7f then [char]
      else if code < 0x10000 then codeEscape code
      else
        codeEscape (0xd800 + (code - 0x10000) / 0x400) ++
          codeEscape (0xdc00 + (code - 0x10000) % 0x400)

def writeText (escape : Char → List Char) (text : String) : List Char :=
  '"' :: text.toList.flatMap escape ++ ['"']

mutual

def write (escape : Char → List Char) : Json → List Char
  | .null => ['n', 'u', 'l', 'l']
  | .bool true => ['t', 'r', 'u', 'e']
  | .bool false => ['f', 'a', 'l', 's', 'e']
  | .int value => Text.integerDigits value
  | .float value => Number.Layout.document.chars value
  | .text value => writeText escape value
  | .list [] => ['[', ']']
  | .list (item :: items) => '[' :: write escape item ++ writeItems escape items
  | .object [] => ['{', '}']
  | .object ((name, value) :: fields) =>
      '{' :: writeText escape name ++ ':' :: write escape value ++ writeFields escape fields

/-- The values after the first one, and the closing bracket. -/
def writeItems (escape : Char → List Char) : List Json → List Char
  | [] => [']']
  | item :: items => ',' :: write escape item ++ writeItems escape items

/-- The fields after the first one, and the closing brace. -/
def writeFields (escape : Char → List Char) : Fields → List Char
  | [] => ['}']
  | (name, value) :: fields =>
      ',' :: writeText escape name ++ ':' :: write escape value ++ writeFields escape fields

end

def plainText (value : Json) : String := String.ofList (write plainChar value)

/-- The form in ASCII. -/
def asciiText (value : Json) : String := String.ofList (write asciiChar value)

end NodeBridge.Json
