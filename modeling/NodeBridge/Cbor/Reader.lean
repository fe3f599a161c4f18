import NodeBridge.Cbor.Tag

/-!
Reading one item from the front of a byte string. Lengths may stand in front or be left
open up to a stop; a stop anywhere else is an error. Containers and tags stand in each other
only so deep. Keys, members of sets and the items that tags make values of are read as
fixed items. Two pairs of tags let a document name again what it had before: texts and byte
strings by their place, and any item by the number that it was shared under.
-/

namespace NodeBridge.Cbor

/-- The parts of a byte string or text of open length, up to the stop. Each part has its
length in front and is of the same kind. -/
def readParts (major : Nat) : Nat → Bytes → Option (List Bytes × Bytes)
  | 0, _ => none
  | fuel + 1, input =>
      match input with
      | [] => none
      | first :: rest =>
          if first = stop then some ([], rest)
          else if first.toNat / 32 = major then do
            let (length, rest) ← readArgument (first.toNat % 32) rest
            let (part, rest) ← readFixed length rest
            let (parts, suffix) ← readParts major fuel rest
            some (part :: parts, suffix)
          else none

/-- The texts of all parts. No character may be cut in two. -/
def joinTexts : List Bytes → Option String
  | [] => some ""
  | part :: parts => do
      let text ← Text.decodeUtf8 part
      let texts ← joinTexts parts
      some (text ++ texts)

/-- A simple value in a byte of its own. Those between the short ones and thirty-two are
not used. -/
def simpleOf? (value : Nat) : Option Item :=
  if 24 ≤ value ∧ value < 32 then none else some (.simple value)

/-- An item that stands for itself: constants and doubles. -/
def readConstant (bits : Nat) (input : Bytes) : Option (Item × Bytes) :=
  if bits < 20 then some (.simple bits, input)
  else if bits = 20 then some (.bool false, input)
  else if bits = 21 then some (.bool true, input)
  else if bits = 22 then some (.null, input)
  else if bits = 23 then some (.undefined, input)
  else if bits = 24 then do
    let (value, suffix) ← readNumber 1 input
    let item ← simpleOf? value
    some (item, suffix)
  else if bits = 25 then do
    let (value, suffix) ← readNumber 2 input
    some (.float (Binary64.ofHalfBits value), suffix)
  else if bits = 26 then do
    let (value, suffix) ← readNumber 4 input
    some (.float (Binary64.ofSingleBits value), suffix)
  else if bits = 27 then do
    let (value, suffix) ← readNumber 8 input
    some (.float ⟨UInt64.ofNat value⟩, suffix)
  else none

inductive Shared where
  | pending
  /-- A container whose end has not been reached. -/
  | opened (kind : Kind)
  | complete (item : Item)

/-- What a reader goes by: the bytes that are left, and what can be named again. -/
structure Source where
  rest : Bytes
  strings : Option (List Item)
  shared : List Shared

namespace Source

def ofBytes (input : Bytes) : Source := ⟨input, none, []⟩

/-- The source before some bytes that are left. -/
def before (source : Source) (rest : Bytes) : Source := { source with rest := rest }

/-- The least length of a text or byte string that is worth a place after so many others:
naming it again must be shorter. -/
def worthLength (place : Nat) : Nat :=
  if place < 24 then 3
  else if place < Nat.pow 2 8 then 4
  else if place < Nat.pow 2 16 then 5
  else if place < Nat.pow 2 32 then 7
  else 11

/-- Gives a text or byte string a place, where they are counted and it is long enough. -/
def remember (source : Source) (item : Item) (length : Nat) : Source :=
  match source.strings with
  | some strings =>
      if worthLength strings.length ≤ length then
        { source with strings := some (strings ++ [item]) }
      else source
  | none => source

def stringAt? (source : Source) : Item → Option Item
  | .int (.ofNat place) => source.strings.bind fun strings => strings[place]?
  | _ => none

def share (source : Source) (number : Nat) (shared : Shared) : Source :=
  { source with shared := source.shared.set number shared }

/-- The item shared under a number. Inside a container of that number, the number itself
stands for it. -/
def sharedAt? (source : Source) : Item → Option Item
  | .int (.ofNat number) =>
      match source.shared[number]? with
      | some (.complete item) => some item
      | some (.opened kind) => some (.within number kind)
      | _ => none
  | _ => none

end Source

structure Place where
  /-- How many containers and tags may be opened in each other. -/
  room : Nat
  fixed : Bool
  number : Option Nat

namespace Place

/-- How deep containers and tags may stand in each other. -/
def nestingLimit : Nat := 400

def outermost : Place := ⟨nestingLimit, false, none⟩

/-- The place of what stands inside. -/
def inner? (place : Place) : Option Place :=
  if place.room = 0 then none else some ⟨place.room - 1, place.fixed, none⟩

/-- The same place for an item that must be fixed. -/
def asFixed (place : Place) : Place := { place with fixed := true }

/-- Makes a container known under its number before it is complete. Fixed containers are
made only when all their items are there. -/
def begin (place : Place) (kind : Kind) (source : Source) : Source :=
  match place.number with
  | some number => if place.fixed then source else source.share number (.opened kind)
  | none => source

def list (place : Place) (items : List Item) : Item :=
  if place.fixed then .fixedList items else .list items

def map? (place : Place) (entries : List (Item × Item)) : Option Item :=
  if entries.all fun entry => entry.1.isFixed then
    let written := Item.writtenEntries entries
    some (if place.fixed then .fixedMap written else .map written)
  else none

end Place

/-- The tag that names a text or byte string again. -/
def stringReferenceTag : Nat := 25

def shareTag : Nat := 28

/-- The tag that names a shared item again. -/
def referenceTag : Nat := 29

def countedTag : Nat := 256

mutual

/-- One item. Each call spends fuel; an item never needs more than twice its length. -/
def readItem : Nat → Place → Source → Option (Item × Source)
  | 0, _, _ => none
  | fuel + 1, place, source =>
      match source.rest with
      | [] => none
      | first :: rest =>
          let major := first.toNat / 32
          let bits := first.toNat % 32
          if major = 0 then do
            let (value, suffix) ← readArgument bits rest
            some (.int value, source.before suffix)
          else if major = 1 then do
            let (value, suffix) ← readArgument bits rest
            some (.int (-1 - (value : Int)), source.before suffix)
          else if major = 2 then
            if bits = openLength then do
              let (parts, suffix) ← readParts 2 fuel rest
              some (.bytes parts.flatten, source.before suffix)
            else do
              let (length, rest) ← readArgument bits rest
              let (bytes, suffix) ← readFixed length rest
              some (.bytes bytes, (source.before suffix).remember (.bytes bytes) length)
          else if major = 3 then
            if bits = openLength then do
              let (parts, suffix) ← readParts 3 fuel rest
              let text ← joinTexts parts
              some (.text text, source.before suffix)
            else do
              let (length, rest) ← readArgument bits rest
              let (bytes, suffix) ← readFixed length rest
              let text ← Text.decodeUtf8 bytes
              some (.text text, (source.before suffix).remember (.text text) length)
          else if major = 4 then do
            let inner ← place.inner?
            if bits = openLength then do
              let source := place.begin .list (source.before rest)
              let (items, source) ← readItemsToStop fuel inner source
              some (place.list items, source)
            else do
              let (count, rest) ← readArgument bits rest
              let source := place.begin .list (source.before rest)
              let (items, source) ← readItems fuel inner count source
              some (place.list items, source)
          else if major = 5 then do
            let inner ← place.inner?
            if bits = openLength then do
              let source := place.begin .object (source.before rest)
              let (entries, source) ← readEntriesToStop fuel inner source
              let item ← place.map? entries
              some (item, source)
            else do
              let (count, rest) ← readArgument bits rest
              let source := place.begin .object (source.before rest)
              let (entries, source) ← readEntries fuel inner count source
              let item ← place.map? entries
              some (item, source)
          else if major = 6 then do
            let (tag, rest) ← readArgument bits rest
            let inner ← place.inner?
            if tag = stringReferenceTag then do
              let (item, source) ← readItem fuel inner (source.before rest)
              let found ← source.stringAt? item
              some (found, source)
            else if tag = shareTag then do
              let number := source.shared.length
              let source := ⟨rest, source.strings, source.shared ++ [.pending]⟩
              let (item, source) ← readItem fuel { inner with number := some number } source
              let whole := if item.mentions number then .cyclic number item else item
              some (whole, source.share number (.complete whole))
            else if tag = referenceTag then do
              let (item, source) ← readItem fuel inner (source.before rest)
              let found ← source.sharedAt? item
              some (found, source)
            else if tag = countedTag then do
              let (item, inside) ← readItem fuel inner ⟨rest, some [], source.shared⟩
              some (item, { inside with strings := source.strings })
            else
              match Tag.ofNumber? tag with
              | some tag => do
                  let (item, source) ← readItem fuel inner.asFixed (source.before rest)
                  let made ← tag.make? place.fixed item
                  some (made, source)
              | none => do
                  let source := place.begin .tagged (source.before rest)
                  let (item, source) ← readItem fuel inner source
                  some (.tagged tag item, source)
          else do
            let (item, suffix) ← readConstant bits rest
            some (item, source.before suffix)

def readItems : Nat → Place → Nat → Source → Option (List Item × Source)
  | 0, _, _, _ => none
  | fuel + 1, place, count, source =>
      if count = 0 then some ([], source)
      else do
        let (item, source) ← readItem fuel place source
        let (items, source) ← readItems fuel place (count - 1) source
        some (item :: items, source)

def readItemsToStop : Nat → Place → Source → Option (List Item × Source)
  | 0, _, _ => none
  | fuel + 1, place, source =>
      match source.rest with
      | [] => none
      | first :: rest =>
          if first = stop then some ([], source.before rest)
          else do
            let (item, source) ← readItem fuel place source
            let (items, source) ← readItemsToStop fuel place source
            some (item :: items, source)

def readEntries : Nat → Place → Nat → Source → Option (List (Item × Item) × Source)
  | 0, _, _, _ => none
  | fuel + 1, place, count, source =>
      if count = 0 then some ([], source)
      else do
        let (key, source) ← readItem fuel place.asFixed source
        let (value, source) ← readItem fuel place source
        let (entries, source) ← readEntries fuel place (count - 1) source
        some ((key, value) :: entries, source)

def readEntriesToStop : Nat → Place → Source → Option (List (Item × Item) × Source)
  | 0, _, _ => none
  | fuel + 1, place, source =>
      match source.rest with
      | [] => none
      | first :: rest =>
          if first = stop then some ([], source.before rest)
          else do
            let (key, source) ← readItem fuel place.asFixed source
            let (value, source) ← readItem fuel place source
            let (entries, source) ← readEntriesToStop fuel place source
            some ((key, value) :: entries, source)

end

/-- The first item of a byte string; what follows it does not matter. -/
def decode (input : Bytes) : Decoded Item :=
  match readItem (2 * input.length + 2) Place.outermost (Source.ofBytes input) with
  | some (item, _) => .ok item
  | none => .error .invalidCbor

end NodeBridge.Cbor
