import NodeBridge.Proofs.Document.Printed
import NodeBridge.Proofs.Document.Read

/-!
Normal forms of documents. Reading a document and printing what was read drops what says nothing
and writes the rest in one way. What comes of it is a normal form if it can be read again and is
printed as it was, so that it stays the same from then on.
-/

namespace NodeBridge

section

variable {α : Type} (read : Json → Decoded α) (write : α → Json)

/-- What comes of a document that is read and printed so many times. -/
def reprint : Nat → Json → Decoded Json
  | 0, json => .ok json
  | rounds + 1, json => do
      let value ← read json
      reprint rounds (write value)

/-- The printed value is a normal form. -/
def Settles (value : α) : Prop :=
  ∀ rounds, reprint read write rounds (write value) = .ok (write value)

/-- Whatever was read is printed in a normal form. -/
def IsNormalizing : Prop := ∀ json value, read json = .ok value → Settles read write value

variable {read write}

theorem settles_of_again {value again : α} (reads : read (write value) = .ok again)
    (same : write again = write value) : Settles read write value := by
  intro rounds
  induction rounds with
  | zero => rfl
  | succ rounds induction =>
      unfold reprint
      rw [reads, Decode.ok_bind, same, induction]

theorem again_of_settles {value : α} (settles : Settles read write value) :
    ∃ again, read (write value) = .ok again ∧ write again = write value := by
  have once := settles 1
  simp only [reprint, bind_eq_ok] at once
  obtain ⟨again, reads, same⟩ := once
  exact ⟨again, reads, Except.ok.inj same⟩

end

/-! Printing heeds of most fields only whether they say something. -/

namespace Json

/-- A field as far as printing heeds it. -/
def heeded (keep : List String) (field : String × Json) : String × Json :=
  (field.1, if field.1 ∈ keep then field.2 else field.2.settle)

theorem compact_map_heeded (keep : List String) (fields : Fields) :
    compact keep (fields.map (heeded keep)) = compact keep fields := by
  induction fields with
  | nil => rfl
  | cons field fields induction =>
      obtain ⟨name, value⟩ := field
      unfold compact at induction ⊢
      rw [List.map_cons, List.filter_cons, List.filter_cons, induction]
      by_cases kept : name ∈ keep
      · simp [heeded, kept]
      · cases bare : value.isBare with
        | true => simp [heeded, kept, settle_of_bare bare, isBare]
        | false => simp [heeded, kept, bare, settle_of_not_bare bare]

theorem compact_congr {keep : List String} {left right : Fields}
    (same : left.map (heeded keep) = right.map (heeded keep)) :
    compact keep left = compact keep right := by
  rw [← compact_map_heeded keep left, same, compact_map_heeded]

section

variable {α : Type} (write : α → Json)

theorem settle_of_option_retained (part : Option α) :
    (ofOption write (retained write part)).settle = (ofOption write part).settle := by
  cases part with
  | none => rfl
  | some value =>
      cases bare : (write value).isBare with
      | true =>
          rw [retained_of_bare write bare, of_option_some, settle_of_bare bare]
          rfl
      | false => rw [retained_of_not_bare write bare]

variable {write}

theorem of_option_map {again : α → α} (same : ∀ value, write (again value) = write value)
    (part : Option α) : ofOption write (part.map again) = ofOption write part := by
  cases part with
  | none => rfl
  | some value => exact same value

theorem map_map_of_same {again : α → α} (same : ∀ value, write (again value) = write value)
    (items : List α) : (items.map again).map write = items.map write := by
  rw [List.map_map]
  exact List.map_congr_left fun value _ => same value

end

end Json

end NodeBridge
