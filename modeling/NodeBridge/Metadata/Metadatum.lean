import NodeBridge.Decode.Field
import NodeBridge.Text.Hex

/-!
Trees of transaction metadata in the detailed form, where each value is an object with one
field that names its kind. When there are several such fields the first kind in the order
of the type wins.
-/

namespace NodeBridge

inductive Metadatum where
  | int (value : Int)
  | text (value : String)
  | bytes (value : Bytes)
  | list (items : List Metadatum)
  | map (entries : List (Metadatum × Metadatum))
deriving Inhabited

namespace Metadatum

mutual

def same : Metadatum → Metadatum → Bool
  | .int left, .int right => left == right
  | .text left, .text right => left == right
  | .bytes left, .bytes right => left == right
  | .list left, .list right => sameItems left right
  | .map left, .map right => sameEntries left right
  | _, _ => false

def sameItems : List Metadatum → List Metadatum → Bool
  | [], [] => true
  | left :: lefts, right :: rights => same left right && sameItems lefts rights
  | _, _ => false

def sameEntries : List (Metadatum × Metadatum) → List (Metadatum × Metadatum) → Bool
  | [], [] => true
  | (leftKey, left) :: lefts, (rightKey, right) :: rights =>
      same leftKey rightKey && same left right && sameEntries lefts rights
  | _, _ => false

end

mutual

theorem same_iff : ∀ left right : Metadatum, same left right = true ↔ left = right
  | .int _, right => by cases right <;> simp [same]
  | .text _, right => by cases right <;> simp [same]
  | .bytes _, right => by cases right <;> simp [same]
  | .list items, right => by cases right <;> simp [same, same_items_iff items]
  | .map entries, right => by cases right <;> simp [same, same_entries_iff entries]

theorem same_items_iff : ∀ left right : List Metadatum, sameItems left right = true ↔ left = right
  | [], right => by cases right <;> simp [sameItems]
  | item :: items, right => by
      cases right with
      | nil => simp [sameItems]
      | cons other others => simp [sameItems, same_iff item, same_items_iff items]

theorem same_entries_iff : ∀ left right : List (Metadatum × Metadatum),
    sameEntries left right = true ↔ left = right
  | [], right => by cases right <;> simp [sameEntries]
  | (key, value) :: entries, right => by
      cases right with
      | nil => simp [sameEntries]
      | cons other others =>
          obtain ⟨otherKey, otherValue⟩ := other
          simp [sameEntries, same_iff key, same_iff value, same_entries_iff entries]

end

instance : DecidableEq Metadatum := fun left right => decidable_of_iff _ (same_iff left right)

/-- The value of an object that holds a number, a text or bytes. -/
def ofScalar? (fields : Fields) : Option (Decoded Metadatum) :=
  match Json.get fields "int", Json.get fields "string", Json.get fields "bytes" with
  | .int value, _, _ => some (.ok (.int value))
  | _, .text value, _ => some (.ok (.text value))
  | _, _, .text digits =>
      match Text.decodeHex digits with
      | some value => some (.ok (.bytes value))
      | none => some (.error .metadatumBytes)
  | _, _, _ => none

mutual

def ofJson : Json → Decoded Metadatum
  | .null => .error (.notMetadatum .null)
  | .object fields =>
      match ofScalar? fields with
      | some outcome => outcome
      | none =>
          match ofListField? fields with
          | some outcome => outcome.map .list
          | none =>
              match ofMapField? fields with
              | some outcome => outcome.map .map
              | none => .error (.notMetadatum (.object fields))
  | .bool _ => .error (.unexpected "metadatum" .object .bool)
  | .int _ => .error (.unexpected "metadatum" .object .int)
  | .float _ => .error (.unexpected "metadatum" .object .float)
  | .text _ => .error (.unexpected "metadatum" .object .text)
  | .list _ => .error (.unexpected "metadatum" .object .list)

/-- The items of the field for lists, if it is a list. -/
def ofListField? : Fields → Option (Decoded (List Metadatum))
  | [] => none
  | (name, .list items) :: rest =>
      if name = "list" then some (ofItems items) else ofListField? rest
  | (name, _) :: rest => if name = "list" then none else ofListField? rest

/-- The entries of the field for maps, if it is a list. -/
def ofMapField? : Fields → Option (Decoded (List (Metadatum × Metadatum)))
  | [] => none
  | (name, .list items) :: rest =>
      if name = "map" then some (ofEntries items) else ofMapField? rest
  | (name, _) :: rest => if name = "map" then none else ofMapField? rest

def ofItems : List Json → Decoded (List Metadatum)
  | [] => .ok []
  | item :: items => do
      let value ← ofJson item
      let values ← ofItems items
      .ok (value :: values)

def ofEntries : List Json → Decoded (List (Metadatum × Metadatum))
  | [] => .ok []
  | item :: items => do
      let entry ← ofEntry item
      let entries ← ofEntries items
      .ok (entry :: entries)

/-- One entry of a map: an object of a key and a value. -/
def ofEntry : Json → Decoded (Metadatum × Metadatum)
  | .null => .error (.notMetadatum .null)
  | .object fields => do
      let key ← ofField "k" fields
      let value ← ofField "v" fields
      .ok (key, value)
  | .bool _ => .error (.unexpected "metadatum map entry" .object .bool)
  | .int _ => .error (.unexpected "metadatum map entry" .object .int)
  | .float _ => .error (.unexpected "metadatum map entry" .object .float)
  | .text _ => .error (.unexpected "metadatum map entry" .object .text)
  | .list _ => .error (.unexpected "metadatum map entry" .object .list)

def ofField (name : String) : Fields → Decoded Metadatum
  | [] => .error (.notMetadatum .null)
  | (other, value) :: rest => if other = name then ofJson value else ofField name rest

end

mutual

def toJson : Metadatum → Json
  | .int value => .object [("int", .int value)]
  | .text value => .object [("string", .text value)]
  | .bytes value => .object [("bytes", .text (Text.encodeHex value))]
  | .list items => .object [("list", .list (toJsonItems items))]
  | .map entries => .object [("map", .list (toJsonEntries entries))]

def toJsonItems : List Metadatum → List Json
  | [] => []
  | item :: items => toJson item :: toJsonItems items

def toJsonEntries : List (Metadatum × Metadatum) → List Json
  | [] => []
  | (key, value) :: entries =>
      .object [("k", toJson key), ("v", toJson value)] :: toJsonEntries entries

end

end Metadatum

end NodeBridge
