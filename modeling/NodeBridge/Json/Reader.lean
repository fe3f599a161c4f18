import NodeBridge.Json.Basic
import NodeBridge.Text.Hex
import NodeBridge.Text.Integer

/-!
Reading documents. White space is space, tab, line feed and carriage return. Beyond plain
documents the three words NaN, Infinity and -Infinity are numbers. A repeated field keeps
its first place and its last value, so the objects that are read have distinct names.
-/

namespace NodeBridge.Json

def isSpace (char : Char) : Bool := char = ' ' || char = '\t' || char = '\n' || char = '\r'

def dropSpace (input : List Char) : List Char := input.dropWhile isSpace

/-- A piece of a text between quotes: a character as such, or a code in an escape. -/
inductive TextUnit where
  | plain (char : Char)
  | code (value : Nat)

def escapedChar? : Char → Option Char
  | '"' => some '"'
  | '\\' => some '\\'
  | '/' => some '/'
  | 'b' => some '\x08'
  | 'f' => some '\x0c'
  | 'n' => some '\n'
  | 'r' => some '\r'
  | 't' => some '\t'
  | _ => none

def code? (first second third fourth : Char) : Option Nat := do
  let one ← Text.hexValue? first
  let two ← Text.hexValue? second
  let three ← Text.hexValue? third
  let four ← Text.hexValue? fourth
  some (((one * 16 + two) * 16 + three) * 16 + four)

/-- The pieces up to the closing quote, and what follows it. -/
def readUnits : List Char → Option (List TextUnit × List Char)
  | [] => none
  | '"' :: rest => some ([], rest)
  | '\\' :: 'u' :: first :: second :: third :: fourth :: rest => do
      let code ← code? first second third fourth
      let (units, suffix) ← readUnits rest
      some (.code code :: units, suffix)
  | '\\' :: char :: rest => do
      let char ← escapedChar? char
      let (units, suffix) ← readUnits rest
      some (.plain char :: units, suffix)
  | char :: rest =>
      if char.toNat < 0x20 then none
      else do
        let (units, suffix) ← readUnits rest
        some (.plain char :: units, suffix)

def isHighHalf (code : Nat) : Bool := 0xd800 ≤ code && code < 0xdc00

def isLowHalf (code : Nat) : Bool := 0xdc00 ≤ code && code < 0xe000

/-- The character of one escape. Half of a surrogate pair is no character; the
replacement character stands for it. -/
def codeChar (code : Nat) : Char :=
  if isHighHalf code || isLowHalf code then '\ufffd' else Char.ofNat code

def pairChar (high low : Nat) : Char :=
  Char.ofNat (0x10000 + (high - 0xd800) * 0x400 + (low - 0xdc00))

/-- Two escapes in a row may be the halves of one character. -/
def joinUnits : List TextUnit → List Char
  | [] => []
  | .plain char :: rest => char :: joinUnits rest
  | .code high :: .code low :: rest =>
      if isHighHalf high && isLowHalf low then pairChar high low :: joinUnits rest
      else codeChar high :: joinUnits (.code low :: rest)
  | .code code :: rest => codeChar code :: joinUnits rest

/-- A text after its opening quote. -/
def readText (input : List Char) : Option (String × List Char) := do
  let (units, suffix) ← readUnits input
  some (String.ofList (joinUnits units), suffix)

def isDigit (char : Char) : Bool := '0' ≤ char && char ≤ '9'

def digitsValue (digits : List Char) : Nat :=
  digits.foldl (fun value digit => 10 * value + (digit.toNat - '0'.toNat)) 0

/-- The digits of the whole part: a zero ends them. -/
def readWhole : List Char → Option (List Char × List Char)
  | '0' :: rest => some (['0'], rest)
  | char :: rest =>
      if isDigit char then some (char :: rest.takeWhile isDigit, rest.dropWhile isDigit) else none
  | [] => none

/-- The digits after a point, if there are any; otherwise the point is not taken. -/
def readFraction : List Char → List Char × List Char
  | '.' :: rest =>
      match rest.takeWhile isDigit with
      | [] => ([], '.' :: rest)
      | digits => (digits, rest.dropWhile isDigit)
  | input => ([], input)

def readExponentDigits (negative : Bool) (input : List Char) : Option (Int × List Char) :=
  match input.takeWhile isDigit with
  | [] => none
  | digits =>
      let size : Int := digitsValue digits
      some (if negative then -size else size, input.dropWhile isDigit)

/-- A power of ten, if there is one; otherwise nothing is taken. -/
def readExponent : List Char → Option (Int × List Char)
  | mark :: rest =>
      if mark = 'e' || mark = 'E' then
        match rest with
        | '-' :: rest => readExponentDigits true rest
        | '+' :: rest => readExponentDigits false rest
        | rest => readExponentDigits false rest
      else none
  | [] => none

/-- A number without its sign. -/
def readMagnitude (negative : Bool) (input : List Char) : Option (Json × List Char) := do
  let (whole, rest) ← readWhole input
  let (fraction, rest) := readFraction rest
  let digits := digitsValue (whole ++ fraction)
  let places : Int := fraction.length
  match readExponent rest with
  | some (exponent, rest) =>
      some (.float (Binary64.ofDecimal negative digits (exponent - places)), rest)
  | none =>
      if fraction.isEmpty then
        if Text.digitLimit < whole.length then none
        else some (.int (if negative then -(digits : Int) else (digits : Int)), rest)
      else some (.float (Binary64.ofDecimal negative digits (-places)), rest)

def readNumber : List Char → Option (Json × List Char)
  | '-' :: rest => readMagnitude true rest
  | input => readMagnitude false input

mutual

/-- One value. Each call spends fuel; a document never needs more than its length. -/
def readValue : Nat → List Char → Option (Json × List Char)
  | 0, _ => none
  | fuel + 1, input =>
      match input with
      | '"' :: rest => do
          let (content, suffix) ← readText rest
          some (.text content, suffix)
      | '{' :: rest =>
          match dropSpace rest with
          | '}' :: suffix => some (.object [], suffix)
          | inner => do
              let (fields, suffix) ← readFields fuel inner
              some (.object (OrderedMap.ofList fields).entries, suffix)
      | '[' :: rest =>
          match dropSpace rest with
          | ']' :: suffix => some (.list [], suffix)
          | inner => do
              let (items, suffix) ← readItems fuel inner
              some (.list items, suffix)
      | 'n' :: 'u' :: 'l' :: 'l' :: suffix => some (.null, suffix)
      | 't' :: 'r' :: 'u' :: 'e' :: suffix => some (.bool true, suffix)
      | 'f' :: 'a' :: 'l' :: 's' :: 'e' :: suffix => some (.bool false, suffix)
      | 'N' :: 'a' :: 'N' :: suffix => some (.float Binary64.nan, suffix)
      | 'I' :: 'n' :: 'f' :: 'i' :: 'n' :: 'i' :: 't' :: 'y' :: suffix =>
          some (.float (Binary64.infinity false), suffix)
      | '-' :: 'I' :: 'n' :: 'f' :: 'i' :: 'n' :: 'i' :: 't' :: 'y' :: suffix =>
          some (.float (Binary64.infinity true), suffix)
      | _ => readNumber input

/-- The values of a list that is not empty, up to its closing bracket. -/
def readItems : Nat → List Char → Option (List Json × List Char)
  | 0, _ => none
  | fuel + 1, input => do
      let (item, rest) ← readValue fuel input
      match dropSpace rest with
      | ',' :: rest => do
          let (items, suffix) ← readItems fuel (dropSpace rest)
          some (item :: items, suffix)
      | ']' :: suffix => some ([item], suffix)
      | _ => none

/-- The fields of an object that is not empty, up to its closing brace. -/
def readFields : Nat → List Char → Option (Fields × List Char)
  | 0, _ => none
  | fuel + 1, input =>
      match input with
      | '"' :: rest => do
          let (name, rest) ← readText rest
          match dropSpace rest with
          | ':' :: rest => do
              let (value, rest) ← readValue fuel (dropSpace rest)
              match dropSpace rest with
              | ',' :: rest => do
                  let (fields, suffix) ← readFields fuel (dropSpace rest)
                  some ((name, value) :: fields, suffix)
              | '}' :: suffix => some ([(name, value)], suffix)
              | _ => none
          | _ => none
      | _ => none

end

def readDocument (input : List Char) : Option Json := do
  let (value, suffix) ← readValue (2 * input.length + 1) (dropSpace input)
  if dropSpace suffix = [] then some value else none

end NodeBridge.Json
