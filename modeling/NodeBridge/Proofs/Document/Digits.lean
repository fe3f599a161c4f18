import Mathlib.Data.List.TakeWhile
import NodeBridge.Proofs.Document.Read

/-!
Whole numbers of documents. A number of more digits than writing allows is not read, so every
whole number of a document that was read can be written again, in a message for one.
-/

namespace NodeBridge

namespace Json

mutual

/-- Whether every whole number of a value is short enough to be written. -/
def isWritable : Json → Bool
  | .int value => !Text.isTooLong value
  | .list items => areWritable items
  | .object fields => areFieldsWritable fields
  | _ => true

def areWritable : List Json → Bool
  | [] => true
  | item :: items => isWritable item && areWritable items

def areFieldsWritable : Fields → Bool
  | [] => true
  | (_, value) :: fields => isWritable value && areFieldsWritable fields

end

theorem are_fields_writable_iff {fields : Fields} :
    areFieldsWritable fields = true ↔ ∀ field ∈ fields, field.2.isWritable = true := by
  induction fields with
  | nil => simp [areFieldsWritable]
  | cons field fields induction => simp [areFieldsWritable, induction]

theorem digits_value_lt {digits : List Char} (all : ∀ digit ∈ digits, isDigit digit = true) :
    digitsValue digits < Nat.pow 10 digits.length := by
  have step (value bound : Nat) (below : value < bound) :
      digits.foldl (fun value digit => 10 * value + (digit.toNat - '0'.toNat)) value <
        Nat.pow 10 digits.length * bound := by
    induction digits generalizing value bound with
    | nil => simpa using below
    | cons digit digits induction =>
        have small : digit.toNat - '0'.toNat < 10 := by
          have within := all digit List.mem_cons_self
          simp only [isDigit, Bool.and_eq_true, decide_eq_true_eq] at within
          have upper : digit.toNat ≤ '9'.toNat := within.2
          have nine : '9'.toNat = '0'.toNat + 9 := rfl
          omega
        have next := induction (fun digit member => all digit (List.mem_cons_of_mem _ member))
          (10 * value + (digit.toNat - '0'.toNat)) (10 * bound) (by omega)
        have power : Nat.pow 10 (digits.length + 1) = Nat.pow 10 digits.length * 10 := rfl
        rw [List.foldl_cons, List.length_cons, power, Nat.mul_assoc]
        exact next
  simpa [digitsValue] using step 0 1 Nat.zero_lt_one

theorem digits_of_read_whole {input digits rest : List Char}
    (read : readWhole input = some (digits, rest)) : ∀ digit ∈ digits, isDigit digit = true := by
  unfold readWhole at read
  split at read
  · cases read
    simp [isDigit]
  · next first tail other =>
      split at read
      · next leading =>
          cases read
          intro digit member
          rcases List.mem_cons.mp member with rfl | later
          · exact leading
          · exact List.mem_takeWhile_imp later
      · cases read
  · cases read

theorem writable_of_few_digits {digits : List Char} {value : Int}
    (all : ∀ digit ∈ digits, isDigit digit = true) (few : digits.length ≤ Text.digitLimit)
    (holds : value.natAbs = digitsValue digits) : (Json.int value).isWritable = true := by
  have short : Text.isTooLong value = false := by
    unfold Text.isTooLong
    rw [holds]
    -- With the limit in its place the power would be computed.
    generalize Text.digitLimit = limit at few
    have below := (digits_value_lt all).trans_le (Nat.pow_le_pow_right (by decide) few)
    exact decide_eq_false (Nat.not_le_of_lt below)
  rw [isWritable, short, Bool.not_false]

theorem writable_of_read_magnitude {negative : Bool} {input rest : List Char} {json : Json}
    (read : readMagnitude negative input = some (json, rest)) : json.isWritable = true := by
  simp only [readMagnitude, Option.bind_eq_bind, Option.bind_eq_some_iff, Prod.exists] at read
  obtain ⟨whole, after, digits, read⟩ := read
  split at read
  · cases read
    rfl
  · split at read
    · next empty =>
        split at read
        · cases read
        · next few =>
            cases read
            rw [List.isEmpty_iff] at empty
            refine writable_of_few_digits (digits_of_read_whole digits) (Nat.le_of_not_lt few) ?_
            rw [empty, List.append_nil]
            split <;> simp
    · cases read
      rfl

theorem writable_of_read_number {input rest : List Char} {json : Json}
    (read : readNumber input = some (json, rest)) : json.isWritable = true := by
  unfold readNumber at read
  split at read <;> exact writable_of_read_magnitude read

/-- What is read with some fuel can be written: a value, the items of a list, the fields of an
object. -/
structure WritableWithin (fuel : Nat) : Prop where
  value : ∀ {input json rest}, readValue fuel input = some (json, rest) → json.isWritable = true
  items : ∀ {input items rest}, readItems fuel input = some (items, rest) →
    areWritable items = true
  fields : ∀ {input fields rest}, readFields fuel input = some (fields, rest) →
    areFieldsWritable fields = true

section

variable {fuel : Nat} {input rest : List Char}

theorem writable_of_read_value (within : WritableWithin fuel) {json : Json}
    (read : readValue (fuel + 1) input = some (json, rest)) : json.isWritable = true := by
  unfold readValue at read
  split at read
  · obtain ⟨⟨content, suffix⟩, -, same⟩ := Option.bind_eq_some_iff.mp read
    cases same
    rfl
  · split at read
    · cases read
      rfl
    · obtain ⟨⟨fields, suffix⟩, found, same⟩ := Option.bind_eq_some_iff.mp read
      cases same
      -- A repeated field is read once, with one of its values.
      have writable := are_fields_writable_iff.mp (within.fields found)
      exact are_fields_writable_iff.mpr fun field member =>
        writable field (OrderedMap.mem_of_list member)
  · split at read
    · cases read
      rfl
    · obtain ⟨⟨items, suffix⟩, found, same⟩ := Option.bind_eq_some_iff.mp read
      cases same
      exact within.items found
  -- The words hold no whole number.
  iterate 6
    · cases read
      rfl
  · exact writable_of_read_number read

theorem writable_of_read_items (within : WritableWithin fuel) {items : List Json}
    (read : readItems (fuel + 1) input = some (items, rest)) : areWritable items = true := by
  simp only [readItems, Option.bind_eq_bind, Option.bind_eq_some_iff, Prod.exists] at read
  obtain ⟨item, after, found, read⟩ := read
  split at read
  · simp only [Option.bind_eq_some_iff, Prod.exists] at read
    obtain ⟨others, suffix, later, same⟩ := read
    cases same
    simp only [areWritable, within.value found, within.items later, Bool.and_self]
  · cases read
    simp only [areWritable, within.value found, Bool.and_self]
  · cases read

theorem writable_of_read_fields (within : WritableWithin fuel) {fields : Fields}
    (read : readFields (fuel + 1) input = some (fields, rest)) :
    areFieldsWritable fields = true := by
  unfold readFields at read
  split at read
  · simp only [Option.bind_eq_bind, Option.bind_eq_some_iff, Prod.exists] at read
    obtain ⟨name, after, -, read⟩ := read
    split at read
    · simp only [Option.bind_eq_some_iff, Prod.exists] at read
      obtain ⟨value, after, found, read⟩ := read
      split at read
      · simp only [Option.bind_eq_some_iff, Prod.exists] at read
        obtain ⟨others, suffix, later, same⟩ := read
        cases same
        simp only [areFieldsWritable, within.value found, within.fields later, Bool.and_self]
      · cases read
        simp only [areFieldsWritable, within.value found, Bool.and_self]
      · cases read
    · cases read
  · cases read

end

theorem writable_within (fuel : Nat) : WritableWithin fuel := by
  induction fuel with
  | zero =>
      constructor <;> intro input read rest found <;>
        simp [readValue, readItems, readFields] at found
  | succ fuel within =>
      exact ⟨writable_of_read_value within, writable_of_read_items within,
        writable_of_read_fields within⟩

end Json

/-- Every whole number of a document that was read can be written. -/
theorem Decode.writable_of_parse_bytes {bytes : Bytes} {json : Json}
    (parses : Decode.parseBytes bytes = .ok json) : json.isWritable = true := by
  unfold parseBytes parseText at parses
  split at parses
  · split at parses
    · next found =>
        cases parses
        simp only [Json.readDocument, Option.bind_eq_bind, Option.bind_eq_some_iff,
          Prod.exists] at found
        obtain ⟨value, suffix, read, whole⟩ := found
        split at whole
        · cases whole
          exact (Json.writable_within _).value read
        · cases whole
    · cases parses
  · cases parses

end NodeBridge
