import NodeBridge.Decode.Field
import NodeBridge.Ledger.Datums
import NodeBridge.Ledger.Value

/-!
How a reading can fail. A reader of documents fails with complaints about the document and
with nothing else, and this is said of each reader by what is said of its parts: of the fields
it reads, in the order in which it reads them. The one error that is no complaint is that of a
message that could not be written.
-/

namespace NodeBridge

/-- Whether an error is a complaint about a document, through and through. -/
def DecodeError.isComplaint : DecodeError → Bool
  | .numberTooLong => false
  | .incompatible _ current legacy => current.isComplaint && legacy.isComplaint
  | .incompatibleResult intersection block => intersection.isComplaint && block.isComplaint
  | _ => true

/-- Whether a computation fails with errors of one kind only, if it fails. -/
def FailsWithin {ε α : Type} (kind : ε → Bool) (outcome : Except ε α) : Prop :=
  ∀ error, outcome = .error error → kind error = true

section

variable {ε ζ α β : Type} {kind : ε → Bool}

@[simp] theorem fails_within_ok (value : α) : FailsWithin kind (.ok value) := by
  intro error fails
  cases fails

@[simp] theorem fails_within_error (error : ε) :
    FailsWithin kind (.error error : Except ε α) ↔ kind error = true := by
  constructor
  · intro within
    exact within error rfl
  · rintro allowed other fails
    cases fails
    exact allowed

/-- A computation in two steps fails as its steps do. -/
@[simp] theorem fails_within_bind {first : Except ε α} {next : α → Except ε β}
    (within : FailsWithin kind first) :
    FailsWithin kind (first >>= next) ↔
      ∀ value, first = .ok value → FailsWithin kind (next value) := by
  cases first with
  | error error => simpa [bind, Except.bind] using within
  | ok value => simp [bind, Except.bind]

@[simp] theorem fails_within_map {first : Except ε α} (change : α → β) :
    FailsWithin kind (first.map change) ↔ FailsWithin kind first := by
  cases first <;> simp [Except.map]

@[simp] theorem fails_within_map_error {first : Except ζ α} (change : ζ → ε) :
    FailsWithin kind (first.mapError change) ↔ FailsWithin (kind ∘ change) first := by
  cases first with
  | error error =>
      show FailsWithin kind (.error (change error)) ↔ _
      rw [fails_within_error, fails_within_error, Function.comp_apply]
  | ok value => exact iff_of_true (fails_within_ok value) (fails_within_ok value)

end

/-- A reader that has nothing but complaints. -/
abbrev Complains {α : Type} (outcome : Decoded α) : Prop :=
  FailsWithin DecodeError.isComplaint outcome

namespace Decode

variable {α : Type} (what : String) (json : Json)

@[simp] theorem complains_object : Complains (object what json) := by
  unfold object
  split <;> simp [DecodeError.isComplaint]

@[simp] theorem complains_list : Complains (list what json) := by
  unfold list
  split <;> simp [DecodeError.isComplaint]

@[simp] theorem complains_text : Complains (text what json) := by
  unfold text
  split <;> simp [DecodeError.isComplaint]

@[simp] theorem complains_integer : Complains (integer what json) := by
  unfold integer
  split
  · simp
  · simp [DecodeError.isComplaint]
  · simp
  · split <;> simp [DecodeError.isComplaint]
  · simp [DecodeError.isComplaint]

@[simp] theorem complains_optional {read : Json → Decoded α}
    (complains : ∀ json, Complains (read json)) : Complains (optional read json) := by
  unfold optional
  split
  · simp
  · simpa using complains _

theorem complains_each {read : Json → Decoded α} (complains : ∀ json, Complains (read json))
    (items : List Json) : Complains (each read items) := by
  induction items with
  | nil => simp [each]
  | cons item items induction => simp [each, complains, induction]

theorem complains_entries {read : String → Json → Decoded α}
    (complains : ∀ name json, Complains (read name json)) (fields : Fields) :
    Complains (entries read fields) := by
  induction fields with
  | nil => simp [entries]
  | cons field fields induction => simp [entries, complains, induction]

@[simp] theorem complains_map {read : String → Json → Decoded α}
    (complains : ∀ name json, Complains (read name json)) : Complains (map what read json) := by
  simp [map, complains_entries complains]

@[simp] theorem complains_list_of {read : Json → Decoded α}
    (complains : ∀ json, Complains (read json)) : Complains (listOf what read json) := by
  simp [listOf, complains_each complains]

theorem complains_parse_bytes (bytes : Bytes) : Complains (parseBytes bytes) := by
  unfold parseBytes parseText
  split
  · split <;> simp [DecodeError.isComplaint]
  · simp [DecodeError.isComplaint]

end Decode

@[simp] theorem Value.complains_of_json (json : Json) : Complains (Value.ofJson json) := by
  have amounts (policy name : String) (json : Json) :
      Complains (readAmount policy name json) := by
    unfold readAmount
    split <;> simp [DecodeError.isComplaint]
  have holdings (policy : String) (json : Json) : Complains (readHoldings policy json) := by
    unfold readHoldings
    split
    · simp [Decode.complains_entries (amounts policy)]
    · simp [DecodeError.isComplaint]
  unfold Value.ofJson
  split
  · simp
  · simp [Decode.complains_entries holdings]
  · simp [DecodeError.isComplaint]

@[simp] theorem Datums.complains_of_json (json : Json) : Complains (Datums.ofJson json) := by
  have datum (hash : String) (json : Json) : Complains (readDatum hash json) := by
    unfold readDatum
    split
    · split
      · simp
      · split <;> simp [DecodeError.isComplaint]
    · simp [DecodeError.isComplaint]
  simp [Datums.ofJson, datum]

end NodeBridge
