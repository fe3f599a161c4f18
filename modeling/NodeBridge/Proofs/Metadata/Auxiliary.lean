import NodeBridge.Legacy.Auxiliary
import NodeBridge.Proofs.Document.Printed
import NodeBridge.Proofs.Document.Read
import NodeBridge.Proofs.Metadata.Tree
import NodeBridge.Proofs.Text.Integer

/-!
The metadata of a transaction is read back as it was written, in either schema. Labels are whole
numbers written in text, so metadata under a label of too many digits has no document at all; and
no such label is ever read.
-/

namespace NodeBridge

theorem read_label_integer_text {label : Int} (short : Text.isTooLong label = false) :
    readLabel (Text.integerText label) = .ok label := by
  rw [readLabel, Text.integerText, String.toList_ofList, Text.read_integer_integer_digits short]

theorem short_of_read_label {name : String} {label : Int} (reads : readLabel name = .ok label) :
    Text.isTooLong label = false := by
  unfold readLabel at reads
  split at reads
  · next found =>
      cases reads
      exact Text.short_of_read_integer found
  · cases reads

/-! What is written unless a number in it is too long. -/

section Guard

variable {α : Type} {long : Bool} {document : α}

theorem guarded_of_short (short : long = false) :
    (if long then .error .numberTooLong else .ok document : Decoded α) = .ok document := by
  rw [short, if_neg Bool.false_ne_true]

theorem guarded_eq_error_iff :
    (if long then .error .numberTooLong else .ok document : Decoded α) = .error .numberTooLong ↔
      long = true := by
  cases long <;> simp

end Guard

/-! Fields whose names are labels. The schemas differ in what stands under a label. -/

section Labels

variable {α : Type} {read : Json → Decoded α} {write : α → Json} {fields : Fields}
  {entries : List (Int × α)}

/-- Each field spells the label and the value of the entry in its place. -/
def Spells (read : Json → Decoded α) (fields : Fields) (entries : List (Int × α)) : Prop :=
  List.Forall₂ (fun field entry => readLabel field.1 = .ok entry.1 ∧ read field.2 = .ok entry.2)
    fields entries

theorem short_of_spells (spells : Spells read fields entries) :
    ∀ entry ∈ entries, Text.isTooLong entry.1 = false := by
  induction spells with
  | nil => nofun
  | cons first rest induction =>
      rintro entry (_ | ⟨_, member⟩)
      · exact short_of_read_label first.1
      · exact induction entry member

theorem spells_of_written (again : ∀ value, read (write value) = .ok value)
    (short : ∀ entry ∈ entries, Text.isTooLong entry.1 = false) :
    Spells read (entries.map fun entry => (Text.integerText entry.1, write entry.2)) entries := by
  induction entries with
  | nil => exact .nil
  | cons entry entries induction =>
      have first := read_label_integer_text (short entry List.mem_cons_self)
      exact .cons ⟨first, again entry.2⟩
        (induction fun other member => short other (List.mem_cons_of_mem _ member))

theorem has_long_label_iff {labels : OrderedMap Int α} :
    hasLongLabel labels = false ↔ ∀ entry ∈ labels.entries, Text.isTooLong entry.1 = false := by
  simp [hasLongLabel, OrderedMap.keys]

/-- What fields spell has no long label, even where several of them spell one label. -/
theorem short_of_list_of_spells (spells : Spells read fields entries) :
    hasLongLabel (OrderedMap.ofList entries) = false := by
  rw [has_long_label_iff]
  intro entry member
  exact short_of_spells spells entry (OrderedMap.mem_of_list member)

end Labels

namespace Current

theorem MetadataRecord.of_json_to_json (record : MetadataRecord) :
    ofJson record.toJson = .ok record := by
  obtain ⟨cbor, tree⟩ := record
  have missing {α : Type} (read : Json → Decoded α) : Decode.optional read .null = .ok none := rfl
  have textRead (text : String) :
      Decode.optional (Decode.text "metadata label cbor") (.text text) = .ok (some text) := rfl
  have treeRead (tree : Metadatum) :
      Decode.optional Metadatum.ofJson tree.toJson = .ok (some tree) := by
    have full : tree.toJson ≠ .null := by cases tree <;> nofun
    rw [Decode.optional_of_ne_null full, tree.of_json_to_json]
    rfl
  cases cbor <;> cases tree <;>
    simp [ofJson, toJson, Json.get_cons, missing, textRead, treeRead]

namespace AuxiliaryData

theorem read_records_eq_ok_iff {fields : Fields} {records : List (Int × MetadataRecord)} :
    readRecords fields = .ok records ↔ Spells MetadataRecord.ofJson fields records := by
  induction fields generalizing records with
  | nil => simp [readRecords, Spells, eq_comm]
  | cons field fields induction =>
      simp only [readRecords, bind_eq_ok, Spells, List.forall₂_cons_left_iff]
      constructor
      · rintro ⟨record, recordRead, label, labelRead, rest, restRead, same⟩
        cases same
        exact ⟨_, rest, ⟨labelRead, recordRead⟩, induction.mp restRead, rfl⟩
      · rintro ⟨entry, rest, ⟨labelRead, recordRead⟩, restSpelt, rfl⟩
        exact ⟨_, recordRead, _, labelRead, rest, induction.mpr restSpelt, rfl⟩

theorem read_labels_label_fields {labels : OrderedMap Int MetadataRecord}
    (short : hasLongLabel labels = false) :
    readLabels (labelFields MetadataRecord.toJson labels) = .ok labels := by
  have records := read_records_eq_ok_iff.mpr
    (spells_of_written MetadataRecord.of_json_to_json (has_long_label_iff.mp short))
  simp only [readLabels, labelFields, Decode.object_object, Decode.ok_bind, records,
    OrderedMap.of_list_entries]

theorem of_json_to_json {data : AuxiliaryData} (named : data.hash ≠ "")
    (short : data.isTooLong = false) : ofJson data.toJson = .ok data := by
  obtain ⟨hash, labels⟩ := data
  have full : hash ≠ "" := named
  cases labels with
  | none => simp [ofJson, toJson, Json.get_cons, full, Decode.optional]
  | some labels =>
      have read : Decode.optional readLabels (labelFields MetadataRecord.toJson labels) =
          .ok (some labels) := by
        have object : labelFields MetadataRecord.toJson labels ≠ .null := nofun
        rw [Decode.optional_of_ne_null object, read_labels_label_fields short]
        rfl
      simp [ofJson, toJson, Json.get_cons, full, read]

/-- What was read can be written. -/
theorem writable_of_json {json : Json} {data : AuxiliaryData} (reads : ofJson json = .ok data) :
    data.hash ≠ "" ∧ data.isTooLong = false := by
  simp only [ofJson, bind_eq_ok] at reads
  obtain ⟨fields, -, hash, -, reads⟩ := reads
  split at reads
  · cases reads
  · next full =>
      obtain ⟨labels, labelsRead, same⟩ := bind_eq_ok.mp reads
      cases same
      refine ⟨by simpa using full, ?_⟩
      cases labels with
      | none => rfl
      | some labels =>
          have found := Decode.of_optional labelsRead
          simp only [readLabels, bind_eq_ok] at found
          obtain ⟨fields, -, records, recordsRead, same⟩ := found
          cases same
          exact short_of_list_of_spells (read_records_eq_ok_iff.mp recordsRead)

/-- Metadata has a document that is read as it exactly if it has a hash and none of its labels
is too long. -/
theorem written_iff (data : AuxiliaryData) :
    (∃ json, data.written = .ok json ∧ ofJson json = .ok data) ↔
      data.hash ≠ "" ∧ data.isTooLong = false := by
  constructor
  · rintro ⟨json, -, reads⟩
    exact writable_of_json reads
  · rintro ⟨named, short⟩
    exact ⟨data.toJson, guarded_of_short short, of_json_to_json named short⟩

end AuxiliaryData

end Current

namespace Legacy.AuxiliaryData

open Current.AuxiliaryData (labelFields)

theorem read_trees_eq_ok_iff {fields : Fields} {trees : List (Int × Metadatum)} :
    readTrees fields = .ok trees ↔ Spells Metadatum.ofJson fields trees := by
  induction fields generalizing trees with
  | nil => simp [readTrees, Spells, eq_comm]
  | cons field fields induction =>
      simp only [readTrees, bind_eq_ok, Spells, List.forall₂_cons_left_iff]
      constructor
      · rintro ⟨label, labelRead, tree, treeRead, rest, restRead, same⟩
        cases same
        exact ⟨_, rest, ⟨labelRead, treeRead⟩, induction.mp restRead, rfl⟩
      · rintro ⟨entry, rest, ⟨labelRead, treeRead⟩, restSpelt, rfl⟩
        exact ⟨_, labelRead, _, treeRead, rest, induction.mpr restSpelt, rfl⟩

theorem read_blob_label_fields {blob : OrderedMap Int Metadatum}
    (short : hasLongLabel blob = false) :
    readBlob (labelFields Metadatum.toJson blob) = .ok blob := by
  have trees := read_trees_eq_ok_iff.mpr
    (spells_of_written Metadatum.of_json_to_json (has_long_label_iff.mp short))
  simp only [readBlob, labelFields, Decode.object_object, Decode.ok_bind, trees,
    OrderedMap.of_list_entries]

theorem of_json_to_json {data : AuxiliaryData} (short : data.isTooLong = false) :
    ofJson data.toJson = .ok data := by
  obtain ⟨hash, blob⟩ := data
  cases blob with
  | none => simp [ofJson, toJson, Json.get_cons, Decode.optional]
  | some blob =>
      have read : readBlob (labelFields Metadatum.toJson blob) = .ok blob :=
        read_blob_label_fields short
      simp [ofJson, toJson, Json.get_cons, Decode.optional, Except.map, read]

/-- What was read can be written. -/
theorem short_of_json {json : Json} {data : AuxiliaryData} (reads : ofJson json = .ok data) :
    data.isTooLong = false := by
  simp only [ofJson, bind_eq_ok] at reads
  obtain ⟨fields, -, body, -, reads⟩ := reads
  cases body with
  | none =>
      obtain ⟨blob, empty, rest⟩ := bind_eq_ok.mp reads
      obtain ⟨hash, -, same⟩ := bind_eq_ok.mp rest
      cases empty
      cases same
      rfl
  | some body =>
      obtain ⟨blob, mapped, rest⟩ := bind_eq_ok.mp reads
      obtain ⟨trees, found, rfl⟩ := map_eq_ok.mp mapped
      obtain ⟨hash, -, same⟩ := bind_eq_ok.mp rest
      cases same
      simp only [readBlob, bind_eq_ok] at found
      obtain ⟨fields, -, entries, entriesRead, same⟩ := found
      cases same
      exact short_of_list_of_spells (read_trees_eq_ok_iff.mp entriesRead)

/-- Metadata has a document that is read as it exactly if none of its labels is too long. -/
theorem written_iff (data : AuxiliaryData) :
    (∃ json, data.written = .ok json ∧ ofJson json = .ok data) ↔ data.isTooLong = false := by
  constructor
  · rintro ⟨json, -, reads⟩
    exact short_of_json reads
  · intro short
    exact ⟨data.toJson, guarded_of_short short, of_json_to_json short⟩

/-- Every tree comes back from a record that holds nothing else. -/
theorem trees_of_current_map (blob : OrderedMap Int Metadatum) :
    treesOfCurrent (blob.map fun tree => ⟨none, some tree⟩) = blob := by
  have kept : (blob.map fun tree => (⟨none, some tree⟩ : Current.MetadataRecord)).entries.filterMap
      (fun entry => entry.2.json.map fun tree => (entry.1, tree)) = blob.entries := by
    rw [OrderedMap.map, List.filterMap_map]
    exact List.filterMap_some
  rw [treesOfCurrent, kept, OrderedMap.of_list_entries]

/-- Metadata comes back from the current schema if it has a body; without one it comes back with
an empty one. -/
theorem of_current_to_current_iff (data : AuxiliaryData) :
    ofCurrent data.toCurrent = data ↔ data.blob.isSome = true := by
  obtain ⟨hash, blob⟩ := data
  cases blob with
  | none => exact iff_of_false nofun nofun
  | some blob =>
      refine iff_of_true ?_ rfl
      simp only [ofCurrent, toCurrent, Option.getD_some, Option.map_some, trees_of_current_map]

end Legacy.AuxiliaryData

/-- Trees are read back as they were written, and what was read is written and read again as it
is. So is the metadata of a transaction in either schema, unless one of its labels is too long:
then it cannot be written. The legacy form of it comes back from the current schema if it has a
body. -/
theorem metadata_survives_writing :
    (∀ tree : Metadatum, Metadatum.ofJson tree.toJson = .ok tree) ∧
    (∀ json tree, Metadatum.ofJson json = .ok tree → Metadatum.ofJson tree.toJson = .ok tree) ∧
    (∀ data : Current.AuxiliaryData,
      (data.written = .error .numberTooLong ↔ data.isTooLong = true) ∧
      ((∃ json, data.written = .ok json ∧ Current.AuxiliaryData.ofJson json = .ok data) ↔
        data.hash ≠ "" ∧ data.isTooLong = false)) ∧
    (∀ data : Legacy.AuxiliaryData,
      (data.written = .error .numberTooLong ↔ data.isTooLong = true) ∧
      ((∃ json, data.written = .ok json ∧ Legacy.AuxiliaryData.ofJson json = .ok data) ↔
        data.isTooLong = false)) ∧
    ∀ data : Legacy.AuxiliaryData,
      Legacy.AuxiliaryData.ofCurrent data.toCurrent = data ↔ data.blob.isSome = true :=
  ⟨Metadatum.of_json_to_json, fun _ tree _ => tree.of_json_to_json,
    fun data => ⟨guarded_eq_error_iff, data.written_iff⟩,
    fun data => ⟨guarded_eq_error_iff, data.written_iff⟩,
    Legacy.AuxiliaryData.of_current_to_current_iff⟩

/-- Metadata under a label of one digit too many. -/
def Current.AuxiliaryData.withLongLabel : Current.AuxiliaryData :=
  ⟨"aa", some (OrderedMap.ofList [(Nat.pow 10 Text.digitLimit, ⟨none, some (.int 1)⟩)])⟩

/-- Metadata under a label of one digit too many cannot be written, so not all metadata with labels
and a hash is read back from its document. -/
theorem no_document_of_long_label :
    Current.AuxiliaryData.withLongLabel.written = .error .numberTooLong ∧
    ¬∀ data : Current.AuxiliaryData, data.labels.isSome = true → data.hash ≠ "" →
      ∃ json, data.written = .ok json ∧ Current.AuxiliaryData.ofJson json = .ok data := by
  have long : Current.AuxiliaryData.withLongLabel.isTooLong = true := by decide +kernel
  have fails : Current.AuxiliaryData.withLongLabel.written = .error .numberTooLong :=
    guarded_eq_error_iff.mpr long
  refine ⟨fails, fun survives => ?_⟩
  obtain ⟨json, written, -⟩ := survives .withLongLabel rfl (by decide)
  cases fails.symm.trans written

end NodeBridge
