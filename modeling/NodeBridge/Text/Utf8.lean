/-!
The byte form of text. Decoding is strict: no overlong form, no half of a surrogate
pair, nothing above U+10FFFF, nothing cut short.
-/

namespace NodeBridge

abbrev Bytes := List UInt8

namespace Text

/-- One byte from its low eight bits. -/
def byte (value : Nat) : UInt8 := UInt8.ofNat value

/-- A byte that continues a character carries six bits. -/
def continuation (value : Nat) : UInt8 := byte (0x80 + value % 0x40)

def encodeChar (char : Char) : Bytes :=
  let code := char.toNat
  if code < 0x80 then [byte code]
  else if code < 0x800 then [byte (0xc0 + code / 0x40), continuation code]
  else if code < 0x10000 then
    [byte (0xe0 + code / 0x1000), continuation (code / 0x40), continuation code]
  else
    [byte (0xf0 + code / 0x40000), continuation (code / 0x1000), continuation (code / 0x40),
      continuation code]

def encodeChars (chars : List Char) : Bytes := chars.flatMap encodeChar

def encodeUtf8 (text : String) : Bytes := encodeChars text.toList

/-- The six bits of a continuation byte. -/
def continued? (value : UInt8) : Option Nat :=
  if 0x80 ≤ value.toNat ∧ value.toNat < 0xc0 then some (value.toNat - 0x80) else none

/-- The character with this code point, unless it is out of the given range or half of a
surrogate pair. -/
def charWithin? (low high code : Nat) : Option Char :=
  if low ≤ code ∧ code ≤ high ∧ ¬(0xd800 ≤ code ∧ code < 0xe000) then some (Char.ofNat code)
  else none

def decodeChars : Bytes → Option (List Char)
  | [] => some []
  | first :: rest =>
      let lead := first.toNat
      if lead < 0x80 then do
        let char ← charWithin? 0 0x7f lead
        some (char :: (← decodeChars rest))
      else if lead < 0xc0 then none
      else if lead < 0xe0 then
        match rest with
        | second :: rest => do
            let low ← continued? second
            let char ← charWithin? 0x80 0x7ff ((lead - 0xc0) * 0x40 + low)
            some (char :: (← decodeChars rest))
        | [] => none
      else if lead < 0xf0 then
        match rest with
        | second :: third :: rest => do
            let middle ← continued? second
            let low ← continued? third
            let char ← charWithin? 0x800 0xffff ((lead - 0xe0) * 0x1000 + middle * 0x40 + low)
            some (char :: (← decodeChars rest))
        | _ => none
      else if lead < 0xf8 then
        match rest with
        | second :: third :: fourth :: rest => do
            let high ← continued? second
            let middle ← continued? third
            let low ← continued? fourth
            let char ← charWithin? 0x10000 0x10ffff
              ((lead - 0xf0) * 0x40000 + high * 0x1000 + middle * 0x40 + low)
            some (char :: (← decodeChars rest))
        | _ => none
      else none

def decodeUtf8 (bytes : Bytes) : Option String := (decodeChars bytes).map String.ofList

end Text

end NodeBridge
