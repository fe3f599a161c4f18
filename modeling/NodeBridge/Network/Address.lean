import NodeBridge.Text.Hex
import NodeBridge.Text.Integer

/-!
Addresses of hosts, in the short form of thirty-two bits and in the long form of a hundred
and twenty-eight, networks of addresses that begin alike, and addresses within a network.
-/

namespace NodeBridge

inductive AddressForm where
  | short
  | long
deriving DecidableEq, Repr

namespace AddressForm

/-- How many bytes an address has. -/
def width : AddressForm → Nat
  | .short => 4
  | .long => 16

/-- The form of addresses of so many bytes. -/
def ofWidth? (width : Nat) : Option AddressForm :=
  if width = 4 then some .short else if width = 16 then some .long else none

end AddressForm

structure Address where
  form : AddressForm
  value : Nat
deriving DecidableEq, Repr

namespace Address

def ofBytes? (form : AddressForm) (bytes : Bytes) : Option Address :=
  if bytes.length = form.width then
    some ⟨form, bytes.foldl (fun value byte => 256 * value + byte.toNat) 0⟩
  else none

/-- The bytes of an address in groups of `size` bytes, as numbers. -/
def groups (size : Nat) (address : Address) : List Nat :=
  let count := address.form.width / size
  (List.range count).map fun index =>
    address.value / Nat.pow 256 (size * (count - 1 - index)) % Nat.pow 256 size

def leadingZeros (numbers : List Nat) : Nat := (numbers.takeWhile (· = 0)).length

/-- Where the longest run of zeros begins, the first of several, and how long it is. -/
def longestZeros : (position : Nat) → List Nat → Nat × Nat
  | _, [] => (0, 0)
  | position, number :: rest =>
      let here := leadingZeros (number :: rest)
      let later := longestZeros (position + 1) rest
      if later.2 ≤ here then (position, here) else later

/-- The hexadecimal digits of a number without leading zeros. -/
def hexChars (value : Nat) : List Char := Nat.toDigits 16 value

def joinChars (separator : Char) : List (List Char) → List Char
  | [] => []
  | [part] => part
  | part :: parts => part ++ separator :: joinChars separator parts

/-- The short form has four numbers with points between them, the long form eight groups
of hexadecimal digits with colons between them. Two colons stand for the longest run of at
least two zero groups. -/
def chars (address : Address) : List Char :=
  match address.form with
  | .short => joinChars '.' ((address.groups 1).map Text.naturalDigits)
  | .long =>
      let groups := address.groups 2
      let (position, length) := longestZeros 0 groups
      if length < 2 then joinChars ':' (groups.map hexChars)
      else
        joinChars ':' ((groups.take position).map hexChars) ++ ':' :: ':' ::
          joinChars ':' ((groups.drop (position + length)).map hexChars)

end Address

/-- The addresses that begin with the same bits as one of them. -/
structure Network where
  address : Address
  /-- How many bits the addresses have in common. -/
  length : Nat
deriving DecidableEq, Repr

namespace Network

def size (network : Network) : Nat :=
  Nat.pow 2 (8 * network.address.form.width - network.length)

def of? (address : Address) (length : Nat) : Option Network :=
  if length ≤ 8 * address.form.width then some ⟨address, length⟩ else none

/-- Whether the address is the first one of the network. -/
def isFirst (network : Network) : Bool := network.address.value % network.size = 0

/-- The network with its first address. -/
def first (network : Network) : Network :=
  let value := network.address.value
  ⟨⟨network.address.form, value - value % network.size⟩, network.length⟩

def chars (network : Network) : List Char :=
  network.address.chars ++ '/' :: Text.naturalDigits network.length

end Network

end NodeBridge
