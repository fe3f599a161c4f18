import NodeBridge.Number.Binary64
import NodeBridge.OrderedMap

/-!
Documents as values. Numbers without fraction and exponent are whole numbers of any size;
all others are doubles. The fields of an object keep their order.
-/

namespace NodeBridge

inductive Json where
  | null
  | bool (value : Bool)
  | int (value : Int)
  | float (value : Binary64)
  | text (value : String)
  | list (items : List Json)
  | object (fields : List (String × Json))
deriving Inhabited

/-- The fields of an object, in order. -/
abbrev Fields := List (String × Json)

namespace Json

mutual

def same : Json → Json → Bool
  | .null, .null => true
  | .bool left, .bool right => left == right
  | .int left, .int right => left == right
  | .float left, .float right => decide (left = right)
  | .text left, .text right => left == right
  | .list left, .list right => sameItems left right
  | .object left, .object right => sameFields left right
  | _, _ => false

def sameItems : List Json → List Json → Bool
  | [], [] => true
  | left :: lefts, right :: rights => same left right && sameItems lefts rights
  | _, _ => false

def sameFields : Fields → Fields → Bool
  | [], [] => true
  | (leftName, left) :: lefts, (rightName, right) :: rights =>
      leftName == rightName && same left right && sameFields lefts rights
  | _, _ => false

end

mutual

theorem same_iff : ∀ left right : Json, same left right = true ↔ left = right
  | .null, right => by cases right <;> simp [same]
  | .bool _, right => by cases right <;> simp [same]
  | .int _, right => by cases right <;> simp [same]
  | .float _, right => by cases right <;> simp [same]
  | .text _, right => by cases right <;> simp [same]
  | .list items, right => by cases right <;> simp [same, same_items_iff items]
  | .object fields, right => by cases right <;> simp [same, same_fields_iff fields]

theorem same_items_iff : ∀ left right : List Json, sameItems left right = true ↔ left = right
  | [], right => by cases right <;> simp [sameItems]
  | item :: items, right => by
      cases right with
      | nil => simp [sameItems]
      | cons other others => simp [sameItems, same_iff item, same_items_iff items]

theorem same_fields_iff : ∀ left right : Fields, sameFields left right = true ↔ left = right
  | [], right => by cases right <;> simp [sameFields]
  | (name, value) :: fields, right => by
      cases right with
      | nil => simp [sameFields]
      | cons other others =>
          obtain ⟨otherName, otherValue⟩ := other
          simp [sameFields, same_iff value, same_fields_iff fields]

end

instance : DecidableEq Json := fun left right => decidable_of_iff _ (same_iff left right)

/-- The field of an object with this name; a missing field is as good as a null one. -/
def get (fields : Fields) (name : String) : Json := (fields.lookup name).getD .null

def has (fields : Fields) (name : String) : Bool := (fields.lookup name).isSome

def isNull : Json → Bool
  | .null => true
  | _ => false

/-- Values that say nothing: null, empty texts, lists and objects, and the whole number
zero. Truth values and doubles always say something. -/
def isBare : Json → Bool
  | .null => true
  | .bool _ => false
  | .int value => value = 0
  | .float _ => false
  | .text value => value.isEmpty
  | .list items => items.isEmpty
  | .object fields => fields.isEmpty

/-- Whether a value counts as yes. The double zero counts as no, unlike not-a-number. -/
def isTruthy : Json → Bool
  | .bool value => value
  | .float value => value.magnitude ≠ 0
  | value => !value.isBare

/-- Drops the fields that say nothing, except for the kept names. -/
def compact (keep : List String) (fields : Fields) : Fields :=
  fields.filter fun field => keep.contains field.1 || !field.2.isBare

def ofTexts (texts : List String) : Json := .list (texts.map .text)

/-- Null in place of a value that is not there. -/
def ofOption {α : Type} (write : α → Json) (value : Option α) : Json :=
  (value.map write).getD .null

def ofMap {α : Type} (write : α → Json) (map : OrderedMap String α) : Json :=
  .object (map.entries.map fun entry => (entry.1, write entry.2))

end Json

end NodeBridge
