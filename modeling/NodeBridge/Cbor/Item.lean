import NodeBridge.Cbor.Scalar
import NodeBridge.Json.Basic
import NodeBridge.Text.Utf8

/-!
Items of concise binary documents. Besides what plain documents hold there are byte
strings, sets, maps with keys of any kind, values that tags make and a few more constants.
Whole numbers have any size. Containers come in two kinds: those that may change, and fixed
ones, which alone may be keys of maps and members of sets. A container can hold itself.
-/

namespace NodeBridge.Cbor

inductive Item where
  | int (value : Int)
  | bytes (value : Bytes)
  | text (value : String)
  | list (items : List Item)
  | map (entries : List (Item × Item))
  | set (items : List Item)
  | fixedList (items : List Item)
  | fixedMap (entries : List (Item × Item))
  | fixedSet (items : List Item)
  | tagged (tag : Nat) (item : Item)
  | scalar (value : Scalar)
  | simple (value : Nat)
  | float (value : Binary64)
  | bool (value : Bool)
  | null
  | undefined
  /-- A container that holds itself: inside of it `within` with its number stands for it. -/
  | cyclic (number : Nat) (item : Item)
  | within (number : Nat) (kind : Kind)
deriving Inhabited

namespace Item

def kind : Item → Kind
  | .int _ => .int
  | .bytes _ => .bytes
  | .text _ => .text
  | .list _ => .list
  | .map _ => .object
  | .set _ => .set
  | .fixedList _ => .fixedList
  | .fixedMap _ => .fixedObject
  | .fixedSet _ => .fixedSet
  | .tagged _ _ => .tagged
  | .scalar value => value.kind
  | .simple _ => .simple
  | .float _ => .float
  | .bool _ => .bool
  | .null => .null
  | .undefined => .undefined
  | .cyclic _ item => item.kind
  | .within _ kind => kind

def isNull : Item → Bool
  | .null => true
  | _ => false

/-- Whether an item is worth nothing: null, undefined, false, a zero, or empty. -/
def isVoid : Item → Bool
  | .int value => value = 0
  | .bytes value => value.isEmpty
  | .text value => value.isEmpty
  | .list items => items.isEmpty
  | .map entries => entries.isEmpty
  | .set items => items.isEmpty
  | .fixedList items => items.isEmpty
  | .fixedMap entries => entries.isEmpty
  | .fixedSet items => items.isEmpty
  | .scalar value => value.isVoid
  | .float value => value.magnitude = 0
  | .bool value => !value
  | .null => true
  | .undefined => true
  | _ => false

/-- The whole number that an item is. The truth values are one and zero. -/
def whole? : Item → Option Int
  | .int value => some value
  | .bool value => some (if value then 1 else 0)
  | _ => none

def items? : Item → Option (List Item)
  | .list items => some items
  | .fixedList items => some items
  | _ => none

def entries? : Item → Option (List (Item × Item))
  | .map entries => some entries
  | .fixedMap entries => some entries
  | _ => none

def textEntry? (name : String) : List (Item × Item) → Option Item
  | [] => none
  | (.text key, value) :: rest => if key = name then some value else textEntry? name rest
  | _ :: rest => textEntry? name rest

mutual

/-- Whether an item can no longer change, and so can be a key. -/
def isFixed : Item → Bool
  | .list _ => false
  | .map _ => false
  | .set _ => false
  | .fixedList items => areFixed items
  | .fixedMap entries => areFixedEntries entries
  | .fixedSet items => areFixed items
  | .tagged _ item => isFixed item
  | .cyclic _ _ => false
  | .within _ _ => false
  | _ => true

def areFixed : List Item → Bool
  | [] => true
  | item :: items => isFixed item && areFixed items

def areFixedEntries : List (Item × Item) → Bool
  | [] => true
  | (key, value) :: entries => isFixed key && isFixed value && areFixedEntries entries

end

mutual

/-- Whether a container of some number is mentioned by something inside of it. -/
def mentions (number : Nat) : Item → Bool
  | .list items => anyMentions number items
  | .map entries => anyEntryMentions number entries
  | .set items => anyMentions number items
  | .fixedList items => anyMentions number items
  | .fixedMap entries => anyEntryMentions number entries
  | .fixedSet items => anyMentions number items
  | .tagged _ item => mentions number item
  | .cyclic _ item => mentions number item
  | .within other _ => other = number
  | _ => false

def anyMentions (number : Nat) : List Item → Bool
  | [] => false
  | item :: items => mentions number item || anyMentions number items

def anyEntryMentions (number : Nat) : List (Item × Item) → Bool
  | [] => false
  | (key, value) :: entries =>
      mentions number key || mentions number value || anyEntryMentions number entries

end

mutual

def expand (number : Nat) (whole : Item) : Item → Item
  | .list items => .list (expandItems number whole items)
  | .map entries => .map (expandEntries number whole entries)
  | .tagged tag item => .tagged tag (expand number whole item)
  | .cyclic other item => .cyclic other (expand number whole item)
  | .within other kind => if other = number then whole else .within other kind
  | item => item

def expandItems (number : Nat) (whole : Item) : List Item → List Item
  | [] => []
  | item :: items => expand number whole item :: expandItems number whole items

def expandEntries (number : Nat) (whole : Item) :
    List (Item × Item) → List (Item × Item)
  | [] => []
  | (key, value) :: entries =>
      (key, expand number whole value) :: expandEntries number whole entries

end

/-- A container that holds itself, one turn of the cycle further. -/
def unrolled : Item → Item
  | .cyclic number item => expand number (.cyclic number item) item
  | item => item

mutual

def hasCycle : Item → Bool
  | .list items => anyHasCycle items
  | .map entries => anyEntryHasCycle entries
  | .fixedList items => anyHasCycle items
  | .fixedMap entries => anyEntryHasCycle entries
  | .cyclic _ _ => true
  | .within _ _ => true
  | _ => false

def anyHasCycle : List Item → Bool
  | [] => false
  | item :: items => hasCycle item || anyHasCycle items

def anyEntryHasCycle : List (Item × Item) → Bool
  | [] => false
  | (key, value) :: entries => hasCycle key || hasCycle value || anyEntryHasCycle entries

end

mutual

def ofJson : Json → Item
  | .null => .null
  | .bool value => .bool value
  | .int value => .int value
  | .float value => .float value
  | .text value => .text value
  | .list items => .list (ofJsonItems items)
  | .object fields => .map (ofJsonFields fields)

def ofJsonItems : List Json → List Item
  | [] => []
  | item :: items => ofJson item :: ofJsonItems items

def ofJsonFields : Fields → List (Item × Item)
  | [] => []
  | (name, value) :: fields => (.text name, ofJson value) :: ofJsonFields fields

end

end Item

end NodeBridge.Cbor
