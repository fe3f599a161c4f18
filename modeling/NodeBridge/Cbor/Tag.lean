import NodeBridge.Cbor.Head
import NodeBridge.Cbor.Key
import NodeBridge.Pattern.Reader

/-!
Tags that make a value of the item behind them. An item that does not fit its tag is an
error. All other tags are kept together with their item.
-/

namespace NodeBridge.Cbor

inductive Tag where
  | momentText
  | momentEpoch
  | natural
  | negative
  | decimal
  | binary
  | fraction
  | pattern
  | mail
  | uuid
  | address (form : AddressForm)
  | epochDay
  | set
  | anyAddress
  | anyNetwork
  | dayText
  | complex
  /-- The item as it is: only says that concise binary documents begin here. -/
  | described
deriving DecidableEq, Repr

namespace Tag

def ofNumber? : Nat → Option Tag
  | 0 => some .momentText
  | 1 => some .momentEpoch
  | 2 => some .natural
  | 3 => some .negative
  | 4 => some .decimal
  | 5 => some .binary
  | 30 => some .fraction
  | 35 => some .pattern
  | 36 => some .mail
  | 37 => some .uuid
  | 52 => some (.address .short)
  | 54 => some (.address .long)
  | 100 => some .epochDay
  | 258 => some .set
  | 260 => some .anyAddress
  | 261 => some .anyNetwork
  | 1004 => some .dayText
  | 43000 => some .complex
  | 55799 => some .described
  | _ => none

/-- A moment by the seconds since the beginning of 1970. -/
def momentOfSeconds? : Item → Option Moment
  | .float seconds => Moment.ofEpochDouble? seconds
  | item => item.whole?.bind Moment.ofEpochSeconds?

def scaledPair? (item : Item) : Option (Int × Int) :=
  match item.items? with
  | some [exponent, coefficient] => do some (← exponent.whole?, ← coefficient.whole?)
  | _ => none

/-- The quotient of two whole numbers in lowest terms. -/
def quotient? (numerator denominator : Int) : Option Scalar :=
  if denominator = 0 then none
  else
    let divisor := Nat.gcd numerator.natAbs denominator.natAbs
    let size := numerator.natAbs / divisor
    let negative : Bool := (numerator < 0) != (denominator < 0)
    some (.fraction (if negative then -(size : Int) else size) (denominator.natAbs / divisor))

/-- What the terms of a fraction are: a numerator and a denominator, the latter one if it
is left out, and the former zero. -/
def fraction? (item : Item) : Option Scalar :=
  match item.items? with
  | some [numerator, denominator] => do quotient? (← numerator.whole?) (← denominator.whole?)
  | some [numerator] => do quotient? (← numerator.whole?) 1
  | some [] => quotient? 0 1
  | _ => none

/-- A number as part of a complex one. -/
def double? : Item → Option Binary64
  | .float value => some value
  | item => do
      let value ← item.whole?
      let number := Binary64.ofQuotient (value < 0) value.natAbs 1
      if number.isInfinite then none else some number

def complex? (item : Item) : Option Scalar :=
  match item.items? with
  | some [real, imaginary] => do some (.complex (← double? real) (← double? imaginary))
  | some [real] => do some (.complex (← double? real) (Binary64.ofParts false 0))
  | some [] => some (.complex (Binary64.ofParts false 0) (Binary64.ofParts false 0))
  | _ => none

def isHeader (line : List Char) : Bool :=
  let name := line.takeWhile fun char => 0x21 ≤ char.toNat && char.toNat ≤ 0x7e && char ≠ ':'
  !name.isEmpty && (line.drop name.length).head? = some ':'

/-- A mail has headers if its first line is one. -/
def mailOf (text : String) : Scalar := .mail (isHeader text.toList)

def length? (item : Item) : Option Nat :=
  match item with
  | .int (.ofNat length) => some length
  | _ => none

def padded (width : Nat) (bytes : Bytes) : Bytes :=
  bytes ++ List.replicate (width - bytes.length) 0

/-- An address, a network by its length and its first bytes, or an address with the length
of its network. -/
def address? (form : AddressForm) : Item → Option Scalar
  | .bytes bytes => (Address.ofBytes? form bytes).map .address
  | item =>
      match item.items? with
      | some [.bytes bytes, length] => do
          let address ← Address.ofBytes? form bytes
          let network ← Network.of? address (← length? length)
          some (.networkAddress network)
      | some [length, .bytes bytes] => do
          let address ← Address.ofBytes? form (padded form.width bytes)
          let network ← Network.of? address (← length? length)
          if network.isFirst then some (.network network) else none
      | _ => none

/-- How many bytes the address of a piece of hardware has. -/
def hardwareWidth : Nat := 6

/-- An address of either form. The tag of an address of hardware is kept. -/
def anyAddress? : Item → Option Item
  | .bytes bytes =>
      if bytes.length = hardwareWidth then some (.tagged 260 (.bytes bytes))
      else do
        let form ← AddressForm.ofWidth? bytes.length
        let address ← Address.ofBytes? form bytes
        some (.scalar (.address address))
  | _ => none

def anyNetwork? (item : Item) : Option Scalar :=
  match item.entries? with
  | some [(.bytes bytes, length)] => do
      let form ← AddressForm.ofWidth? bytes.length
      let address ← Address.ofBytes? form bytes
      let network ← Network.of? address (← length? length)
      some (.network network.first)
  | _ => none

def set? (fixed : Bool) (item : Item) : Option Item := do
  let items ← item.items?
  if Item.areFixed items then
    some (if fixed then .fixedSet (Item.members items) else .set (Item.members items))
  else none

/-- The item that a tag makes of another, of a fixed kind where that is asked for. -/
def make? (fixed : Bool) (tag : Tag) (item : Item) : Option Item :=
  match tag, item with
  | .momentText, .text text => (Moment.ofText? text).map fun moment => .scalar (.moment moment)
  | .momentEpoch, item => (momentOfSeconds? item).map fun moment => .scalar (.moment moment)
  | .natural, .bytes bytes => some (.int (ofBigEndian bytes))
  | .negative, .bytes bytes => some (.int (-1 - (ofBigEndian bytes : Int)))
  | .decimal, item => do
      let (exponent, coefficient) ← scaledPair? item
      (Number.Scaled.of? coefficient exponent).map fun number => .scalar (.decimal number)
  | .binary, item => do
      let (exponent, coefficient) ← scaledPair? item
      (Number.Scaled.ofBinary? coefficient exponent).map fun number => .scalar (.decimal number)
  | .fraction, item => (fraction? item).map .scalar
  | .pattern, .text source =>
      (Pattern.ofText? source).map fun _ => .scalar (.pattern source)
  | .mail, .text text => some (.scalar (mailOf text))
  | .uuid, .bytes bytes => if bytes.length = 16 then some (.scalar (.uuid bytes)) else none
  | .address form, item => (address? form item).map .scalar
  | .epochDay, item => do
      let days ← item.whole?
      (Date.ofEpochDay? days).map fun date => .scalar (.date date)
  | .set, item => set? fixed item
  | .anyAddress, item => anyAddress? item
  | .anyNetwork, item => (anyNetwork? item).map .scalar
  | .dayText, .text text => (Date.ofText? text).map fun date => .scalar (.date date)
  | .complex, item => (complex? item).map .scalar
  | .described, item => some item
  | _, _ => none

end Tag

end NodeBridge.Cbor
