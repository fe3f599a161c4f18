import Mathlib.Data.List.Nodup
import NodeBridge.Decode.Field

/-!
Reading documents that were printed. Fields that say nothing are dropped when a document is
printed, and a missing field is read as the empty value of its kind, so every field is read
as it was written. Only where a document is passed on as it is, what says nothing becomes
null.
-/

namespace NodeBridge

namespace Json

/-- A value as it is found again after the fields that say nothing were dropped. -/
def settle (json : Json) : Json := if json.isBare then .null else json

theorem settle_of_bare {json : Json} (bare : json.isBare = true) : json.settle = .null := by
  simp [settle, bare]

theorem settle_of_not_bare {json : Json} (full : json.isBare = false) : json.settle = json := by
  simp [settle, full]

@[simp] theorem settle_null : settle .null = .null := rfl

@[simp] theorem settle_settle (json : Json) : json.settle.settle = json.settle := by
  cases bare : json.isBare with
  | true => rw [settle_of_bare bare, settle_null]
  | false => rw [settle_of_not_bare bare, settle_of_not_bare bare]

@[simp] theorem get_nil (name : String) : get [] name = .null := rfl

theorem get_cons (field name : String) (value : Json) (fields : Fields) :
    get ((field, value) :: fields) name = if name = field then value else get fields name := by
  unfold get
  rw [lookup_cons_entry]
  split <;> rfl

theorem get_of_not_mem {fields : Fields} {name : String}
    (absent : name ∉ fields.map Prod.fst) : get fields name = .null := by
  induction fields with
  | nil => rfl
  | cons field fields induction =>
      simp only [List.map_cons, List.mem_cons, not_or] at absent
      rw [get_cons, if_neg absent.1, induction absent.2]

/-- A field of a printed document: kept fields are found as they are, and the others as
they are found after the dropping. -/
theorem get_compact (keep : List String) {fields : Fields}
    (distinct : (fields.map Prod.fst).Nodup) (name : String) :
    get (compact keep fields) name =
      if name ∈ keep then get fields name else (get fields name).settle := by
  induction fields with
  | nil => simp [compact]
  | cons field fields induction =>
      obtain ⟨field, value⟩ := field
      simp only [List.map_cons, List.nodup_cons] at distinct
      have rest := induction distinct.2
      by_cases same : name = field
      · subst same
        have absent : get fields name = .null := get_of_not_mem distinct.1
        rw [absent, settle_null, ite_self] at rest
        by_cases kept : name ∈ keep
        · simp [compact, kept, get_cons]
        · cases bare : value.isBare with
          | true =>
              have dropped : compact keep ((name, value) :: fields) = compact keep fields := by
                simp [compact, kept, bare]
              rw [dropped, rest, get_cons, if_pos rfl, if_neg kept, settle_of_bare bare]
          | false => simp [compact, kept, bare, get_cons, settle_of_not_bare bare]
      · have passed : get (compact keep ((field, value) :: fields)) name =
            get (compact keep fields) name := by
          unfold compact
          rw [List.filter_cons]
          split
          · rw [get_cons, if_neg same]
          · rfl
        rw [passed, rest, get_cons, if_neg same]

@[simp] theorem is_null_null : isNull .null = true := rfl

theorem is_null_of_ne_null {json : Json} (full : json ≠ .null) : json.isNull = false := by
  cases json with
  | null => exact absurd rfl full
  | _ => rfl

@[simp] theorem is_bare_text (value : String) : (text value).isBare = value.isEmpty := rfl

section

variable {α : Type} (write : α → Json)

/-- A part that may be missing, as it is found again: one that says nothing is dropped. -/
def retained (part : Option α) : Option α := part.filter fun value => !(write value).isBare

theorem of_option_some (value : α) : ofOption write (some value) = write value := rfl

theorem retained_of_bare {value : α} (bare : (write value).isBare = true) :
    retained write (some value) = none := by
  simp [retained, bare]

theorem retained_of_not_bare {value : α} (full : (write value).isBare = false) :
    retained write (some value) = some value := by
  simp [retained, full]

end

end Json

theorem OrderedMap.map_id {κ α : Type} (source : OrderedMap κ α) : source.map id = source :=
  OrderedMap.ext_entries (List.map_id source.entries)

/-! Readers on the values that they find again. -/

namespace Decode

open Json

variable {α β : Type}

@[simp] theorem ok_bind {ε : Type} (value : α) (next : α → Except ε β) :
    (Except.ok value >>= next) = next value := rfl

@[simp] theorem text_text (what value : String) : text what (.text value) = .ok value := rfl

@[simp] theorem text_settle (what value : String) :
    text what (Json.text value).settle = .ok value := by
  cases bare : (Json.text value).isBare with
  | true =>
      have empty : value = "" := by simpa using bare
      rw [settle_of_bare bare, empty]
      rfl
  | false => rw [settle_of_not_bare bare, text_text]

@[simp] theorem integer_int (what : String) (value : Int) : integer what (.int value) = .ok value :=
  rfl

@[simp] theorem integer_settle (what : String) (value : Int) :
    integer what (Json.int value).settle = .ok value := by
  by_cases zero : value = 0
  · subst zero
    rfl
  · rw [settle_of_not_bare (by simp [isBare, zero]), integer_int]

@[simp] theorem object_object (what : String) (fields : Fields) :
    object what (.object fields) = .ok fields := rfl

@[simp] theorem object_settle (what : String) (fields : Fields) :
    object what (Json.object fields).settle = .ok fields := by
  cases fields with
  | nil => rfl
  | cons field fields => rfl

@[simp] theorem list_settle (what : String) (items : List Json) :
    list what (Json.list items).settle = .ok items := by
  cases items with
  | nil => rfl
  | cons item items => rfl

theorem each_map {read : Json → Decoded β} {write : α → Json} {again : α → β} {items : List α}
    (reads : ∀ item ∈ items, read (write item) = .ok (again item)) :
    each read (items.map write) = .ok (items.map again) := by
  induction items with
  | nil => rfl
  | cons item items induction =>
      have rest := induction fun item member => reads item (List.mem_cons_of_mem _ member)
      simp only [List.map_cons, each]
      rw [reads item List.mem_cons_self, ok_bind, rest, ok_bind]

theorem list_of_settle (what : String) {read : Json → Decoded β} {write : α → Json}
    {again : α → β} {items : List α}
    (reads : ∀ item ∈ items, read (write item) = .ok (again item)) :
    listOf what read (Json.list (items.map write)).settle = .ok (items.map again) := by
  unfold listOf
  rw [list_settle, ok_bind, each_map reads]

theorem list_of_settle_same (what : String) {read : Json → Decoded α} {write : α → Json}
    {items : List α} (reads : ∀ item ∈ items, read (write item) = .ok item) :
    listOf what read (Json.list (items.map write)).settle = .ok items := by
  rw [list_of_settle what reads, List.map_id']

theorem texts_settle (what other : String) (texts : List String) :
    listOf what (text other) (ofTexts texts).settle = .ok texts :=
  list_of_settle_same what fun value _ => text_text other value

theorem entries_map {read : String → Json → Decoded β} {write : α → Json} {again : α → β}
    {fields : List (String × α)}
    (reads : ∀ entry ∈ fields, read entry.1 (write entry.2) = .ok (again entry.2)) :
    entries read (fields.map fun entry => (entry.1, write entry.2)) =
      .ok (fields.map fun entry => (entry.1, again entry.2)) := by
  induction fields with
  | nil => rfl
  | cons field fields induction =>
      have rest := induction fun entry member => reads entry (List.mem_cons_of_mem _ member)
      simp only [List.map_cons, entries]
      rw [reads field List.mem_cons_self, ok_bind, rest, ok_bind]

theorem map_of_map (what : String) {read : String → Json → Decoded β} {write : α → Json}
    {again : α → β} {map : OrderedMap String α}
    (reads : ∀ entry ∈ map.entries, read entry.1 (write entry.2) = .ok (again entry.2)) :
    Decode.map what read (ofMap write map) = .ok (map.map again) := by
  unfold Decode.map ofMap
  rw [object_object, ok_bind, entries_map reads, ok_bind]
  exact congrArg _ (OrderedMap.of_list_entries (map.map again))

theorem map_of_map_same (what : String) {read : String → Json → Decoded α} {write : α → Json}
    {map : OrderedMap String α}
    (reads : ∀ entry ∈ map.entries, read entry.1 (write entry.2) = .ok entry.2) :
    Decode.map what read (ofMap write map) = .ok map := by
  have again := @map_of_map α α what read write id map reads
  rw [again, OrderedMap.map_id]

theorem map_settle (what : String) {read : String → Json → Decoded α} (write : α → Json)
    (map : OrderedMap String α) :
    Decode.map what read (ofMap write map).settle = Decode.map what read (ofMap write map) := by
  unfold Decode.map ofMap
  rw [object_settle, object_object]

theorem optional_of_ne_null {read : Json → Decoded β} {json : Json} (full : json ≠ .null) :
    optional read json = (read json).map some := by
  cases json with
  | null => exact absurd rfl full
  | bool _ | int _ | float _ | text _ | list _ | object _ => rfl

/-- A part that may be missing is found again if it says anything. -/
theorem optional_retained {read : Json → Decoded β} {write : α → Json} {again : α → β}
    {part : Option α} (reads : ∀ value ∈ part, read (write value) = .ok (again value)) :
    optional read (ofOption write part).settle = .ok ((retained write part).map again) := by
  cases part with
  | none => rfl
  | some value =>
      rw [of_option_some]
      cases bare : (write value).isBare with
      | true =>
          rw [retained_of_bare write bare, settle_of_bare bare]
          rfl
      | false =>
          have there : write value ≠ .null := by
            intro null
            rw [null] at bare
            cases bare
          rw [retained_of_not_bare write bare, settle_of_not_bare bare,
            optional_of_ne_null there, reads value rfl]
          rfl

theorem optional_retained_same {read : Json → Decoded α} {write : α → Json} {part : Option α}
    (reads : ∀ value, read (write value) = .ok value) :
    optional read (ofOption write part).settle = .ok (retained write part) := by
  rw [optional_retained fun value _ => reads value, Option.map_id']

theorem optional_settle {read : Json → Decoded β} {write : α → Json} {again : α → β}
    {value : Option α} (full : ∀ part, (write part).isBare = false)
    (reads : ∀ part, read (write part) = .ok (again part)) :
    optional read (ofOption write value).settle = .ok (value.map again) := by
  have kept : retained write value = value := by
    cases value with
    | none => rfl
    | some part => exact retained_of_not_bare write (full part)
  rw [optional_retained fun part _ => reads part, kept]

theorem optional_integer_settle (what : String) (value : Option Int) :
    optional (integer what) (ofOption .int value).settle = .ok (value.filter (· ≠ 0)) := by
  rw [optional_retained_same (integer_int what)]
  simp [retained, isBare]

end Decode

end NodeBridge
