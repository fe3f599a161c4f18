import NodeBridge.Text.Utf8

/-!
Heads of items. The first byte says what kind of item follows and holds five bits of argument:
the argument itself if it is small, and otherwise how many bytes of it follow.
-/

namespace NodeBridge.Cbor

/-- The last `width` bytes of a number, the most significant one first. -/
def bigEndian : (width value : Nat) → Bytes
  | 0, _ => []
  | width + 1, value => bigEndian width (value / 256) ++ [Text.byte value]

/-- How many bytes a number needs; at least one. -/
def byteWidth (value : Nat) : Nat := Nat.log2 value / 8 + 1

/-- The first byte of a head: what kind of item follows, and five bits of argument. -/
def lead (major argument : Nat) : UInt8 := Text.byte (major * 32 + argument)

def head (major argument : Nat) : Bytes :=
  if argument < 24 then [lead major argument]
  else if argument < Nat.pow 2 8 then lead major 24 :: bigEndian 1 argument
  else if argument < Nat.pow 2 16 then lead major 25 :: bigEndian 2 argument
  else if argument < Nat.pow 2 32 then lead major 26 :: bigEndian 4 argument
  else lead major 27 :: bigEndian 8 argument

def ofBigEndian (bytes : Bytes) : Nat :=
  bytes.foldl (fun value byte => 256 * value + byte.toNat) 0

def readFixed (count : Nat) (input : Bytes) : Option (Bytes × Bytes) :=
  let bytes := input.take count
  if bytes.length = count then some (bytes, input.drop count) else none

def readNumber (width : Nat) (input : Bytes) : Option (Nat × Bytes) := do
  let (bytes, suffix) ← readFixed width input
  some (ofBigEndian bytes, suffix)

/-- The argument of a head, from its five bits and the bytes that follow. -/
def readArgument (bits : Nat) (input : Bytes) : Option (Nat × Bytes) :=
  if bits < 24 then some (bits, input)
  else if bits = 24 then readNumber 1 input
  else if bits = 25 then readNumber 2 input
  else if bits = 26 then readNumber 4 input
  else if bits = 27 then readNumber 8 input
  else none

/-- The bits that leave a length open. -/
def openLength : Nat := 31

def stop : UInt8 := 0xff

end NodeBridge.Cbor
