/-!
Addresses in base 32 with a checksum. An address has a readable part, a separating one,
data of five bits each, and six more that check all the rest. Letters are all of one case.
The length is not limited.
-/

namespace NodeBridge.Text

def bech32Digits : List Char := "qpzry9x8gf2tvdw0s3jn54khce6mua7l".toList

def bech32Value? (char : Char) : Option Nat := bech32Digits.idxOf? char

/-- What the five bits above the checksum contribute, each by its own generator. -/
def checksumGenerators : List Nat := [0x3b6a57b2, 0x26508e6d, 0x1ea119fa, 0x3d4233dd, 0x2a1462b3]

def checksumStep (sum value : Nat) : Nat :=
  let top := sum >>> 25
  let shifted := ((sum &&& 0x1ffffff) <<< 5) ^^^ value
  checksumGenerators.zipIdx.foldl
    (fun sum generator => if (top >>> generator.2) % 2 = 1 then sum ^^^ generator.1 else sum)
    shifted

def checksum (values : List Nat) : Nat := values.foldl checksumStep 1

/-- The readable part as it enters the checksum: high bits, a zero, low bits. -/
def expandReadable (readable : List Char) : List Nat :=
  readable.map (fun char => char.toNat >>> 5) ++ 0 :: readable.map fun char => char.toNat % 32

def isMixedCase (chars : List Char) : Bool :=
  chars.any (fun char => 'a' ≤ char && char ≤ 'z') &&
    chars.any fun char => 'A' ≤ char && char ≤ 'Z'

/-- Splits characters at the last one of a kind; neither part holds it. -/
def splitAtLast (separator : Char) (chars : List Char) : Option (List Char × List Char) :=
  let reversed := chars.reverse
  match reversed.dropWhile (· ≠ separator) with
  | [] => none
  | _ :: before => some (before.reverse, (reversed.takeWhile (· ≠ separator)).reverse)

def checksumLength : Nat := 6

def decodeBech32 (text : String) : Option (List Char × List Nat) := do
  let chars := text.toList
  if chars.any (fun char => char.toNat < 33 || 126 < char.toNat) || isMixedCase chars then none
  else
    let (readable, digits) ← splitAtLast '1' (chars.map Char.toLower)
    if readable.isEmpty || digits.length < checksumLength then none
    else
      let values ← digits.mapM bech32Value?
      if checksum (expandReadable readable ++ values) = 1 then
        some (readable, values.take (values.length - checksumLength))
      else none

/-- Bytes out of groups of five bits. Less than a group may be left over, and its bits must
be zero. -/
def joinGroups (bits rest : Nat) : List Nat → Option (List Nat)
  | [] => if 5 ≤ bits ∨ rest ≠ 0 then none else some []
  | group :: groups =>
      let whole := 32 * rest + group
      if bits + 5 < 8 then joinGroups (bits + 5) whole groups
      else
        let left := bits + 5 - 8
        (joinGroups left (whole % Nat.pow 2 left) groups).map (whole / Nat.pow 2 left :: ·)

end NodeBridge.Text
