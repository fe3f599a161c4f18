import NodeBridge.Cbor.Head
import NodeBridge.Json.Basic

/-!
Writing documents in the concise binary form, in their shortest heads and with lengths in
front. A length outside of 64 bits, which no head can hold, is left open instead. A whole number
outside of 64 bits is a tagged byte string without leading zeros.
-/

namespace NodeBridge.Cbor

/-- A byte string or a part of one, or of a text. -/
def encodePart (major : Nat) (part : Bytes) : Bytes := head major part.length ++ part

/-- A byte string or a text. If its length is left open, its parts stand one by one. -/
def encodeParts (major : Nat) (parts : List Bytes) : Bytes :=
  if parts.flatten.length < Nat.pow 2 64 then encodePart major parts.flatten
  else lead major openLength :: parts.flatMap (encodePart major) ++ [stop]

def encodeByteString (bytes : Bytes) : Bytes := encodeParts 2 (bytes.map fun value => [value])

def encodeText (text : String) : Bytes := encodeParts 3 (text.toList.map Text.encodeChar)

/-- The items of a container of some number of them, one after the other. -/
def encodeContainer (major count : Nat) (content : Bytes) : Bytes :=
  if count < Nat.pow 2 64 then head major count ++ content
  else lead major openLength :: content ++ [stop]

/-- A number in a head of its own if it fits, and in a tagged byte string otherwise. -/
def encodeNatural (major tag value : Nat) : Bytes :=
  if value < Nat.pow 2 64 then head major value
  else head 6 tag ++ encodeByteString (bigEndian (byteWidth value) value)

def encodeInteger : Int → Bytes
  | .ofNat value => encodeNatural 0 2 value
  | .negSucc value => encodeNatural 1 3 value

/-- Doubles that are no number take two bytes, all others eight. -/
def encodeFloat (number : Binary64) : Bytes :=
  if number.isNaN then lead 7 25 :: bigEndian 2 0x7e00
  else if number.isInfinite then
    lead 7 25 :: bigEndian 2 (if number.isNegative then 0xfc00 else 0x7c00)
  else lead 7 27 :: bigEndian 8 number.bits.toNat

def encodeByteStrings (strings : List Bytes) : Bytes :=
  encodeContainer 4 strings.length (strings.flatMap encodeByteString)

mutual

def encode : Json → Bytes
  | .null => [lead 7 22]
  | .bool false => [lead 7 20]
  | .bool true => [lead 7 21]
  | .int value => encodeInteger value
  | .float value => encodeFloat value
  | .text value => encodeText value
  | .list items => encodeContainer 4 items.length (encodeItems items)
  | .object fields => encodeContainer 5 fields.length (encodeFields fields)

def encodeItems : List Json → Bytes
  | [] => []
  | item :: items => encode item ++ encodeItems items

def encodeFields : Fields → Bytes
  | [] => []
  | (name, value) :: fields => encodeText name ++ encode value ++ encodeFields fields

end

end NodeBridge.Cbor
