import NodeBridge.Proofs.Adaptive.Reading
import NodeBridge.Proofs.Metadata.Auxiliary

/-!
The datums under a label of the metadata of a transaction. They are found alike in a document of
either schema: in one of the current schema, in the legacy document that it is written as, and by
the lookup that knows the legacy schema only.
-/

namespace NodeBridge

/-- The datums under a label of a body, and none where there is no such label. -/
def datumsUnder (blob : OrderedMap Int Metadatum) (label : Int) : OrderedMap String Bytes :=
  match blob.find? label with
  | some tree => tree.datums
  | none => OrderedMap.empty

namespace Legacy.AuxiliaryData

section

variable {labels : OrderedMap Int Current.MetadataRecord} {label : Int}

theorem entries_trees_of_current (labels : OrderedMap Int Current.MetadataRecord) :
    (treesOfCurrent labels).entries = labels.entries.filterMap fun entry =>
      entry.2.json.map fun tree => (entry.1, tree) := by
  apply OrderedMap.entries_of_list
  have keys : (labels.entries.filterMap fun entry =>
      entry.2.json.map fun tree => (entry.1, tree)).map Prod.fst =
        (labels.entries.filter fun entry => entry.2.json.isSome).map Prod.fst := by
    induction labels.entries with
    | nil => rfl
    | cons entry rest induction =>
        obtain ⟨label, cbor, tree⟩ := entry
        cases tree <;> simp_all
  rw [keys]
  exact labels.distinct.sublist (List.filter_sublist.map Prod.fst)

/-- A label leads to the tree of its record. -/
theorem find_trees_of_current :
    (treesOfCurrent labels).find? label = (labels.find? label).bind fun record => record.json := by
  apply Option.ext
  intro tree
  rw [OrderedMap.find_eq_some_iff, entries_trees_of_current]
  simp only [List.mem_filterMap, Option.map_eq_some_iff, Option.bind_eq_some_iff,
    OrderedMap.find_eq_some_iff]
  constructor
  · rintro ⟨⟨_, record⟩, member, _, held, same⟩
    cases same
    exact ⟨record, member, held⟩
  · rintro ⟨record, member, held⟩
    exact ⟨(label, record), member, tree, held, rfl⟩

theorem short_of_current {data : Current.AuxiliaryData} (short : data.isTooLong = false) :
    (ofCurrent data).isTooLong = false := by
  obtain ⟨hash, labels⟩ := data
  cases labels with
  | none => rfl
  | some labels =>
      have each := has_long_label_iff.mp short
      apply has_long_label_iff.mpr
      intro entry member
      rw [entries_trees_of_current, List.mem_filterMap] at member
      obtain ⟨source, held, found⟩ := member
      obtain ⟨tree, -, rfl⟩ := Option.map_eq_some_iff.mp found
      exact each source held

theorem short_to_current {data : AuxiliaryData} (short : data.isTooLong = false) :
    data.toCurrent.isTooLong = false := by
  obtain ⟨hash, blob⟩ := data
  cases blob with
  | none => rfl
  | some blob =>
      have each : ∀ entry ∈ blob.entries, Text.isTooLong entry.1 = false :=
        has_long_label_iff.mp short
      apply has_long_label_iff.mpr
      intro entry member
      obtain ⟨source, held, rfl⟩ := List.mem_map.mp member
      exact each source held

end

/-- A document of the legacy schema has no labels. -/
theorem unlabelled_to_json (data : AuxiliaryData) :
    ∃ fields, data.toJson = .object fields ∧ Json.get fields "labels" = .null := by
  unfold toJson
  cases data.blob <;> exact ⟨_, rfl, rfl⟩

/-- The lookup that knows the legacy schema only, in a document that it can read. -/
theorem datum_map_of_json {json : Json} {data : AuxiliaryData} (there : json ≠ .null)
    (reads : ofJson json = .ok data) (label : Int) :
    datumMap json label = .ok (datumsUnder (data.blob.getD OrderedMap.empty) label) := by
  unfold datumMap
  split
  · exact absurd rfl there
  · rw [reads, Decode.ok_bind, datumsUnder]
    cases (data.blob.getD OrderedMap.empty).find? label <;> rfl

theorem datum_map_of_error {json : Json} {error : DecodeError} (there : json ≠ .null)
    (fails : ofJson json = .error error) (label : Int) : datumMap json label = .error error := by
  cases json with
  | null => exact absurd rfl there
  | _ =>
      unfold datumMap
      simp only [fails]
      rfl

end Legacy.AuxiliaryData

namespace Adaptive

open Legacy.AuxiliaryData (treesOfCurrent find_trees_of_current ofCurrent)

variable {json : Json} {data : Current.AuxiliaryData} {fields : Fields}

/-- Every label has a tree. -/
def HasTrees (data : Current.AuxiliaryData) : Prop :=
  ∀ labels ∈ data.labels, ∀ record ∈ labels.values, record.json.isSome = true

/-- The datums that the records of metadata hold under a label. -/
def datumsOf (data : Current.AuxiliaryData) (label : Int) : OrderedMap String Bytes :=
  datumsUnder (treesOfCurrent (data.labels.getD OrderedMap.empty)) label

theorem datum_map_of_decode (decodes : auxiliaryData.decode json = .ok data)
    (whole : HasTrees data) (label : Int) : datumMap json label = .ok (datumsOf data label) := by
  unfold datumMap
  split
  · cases decodes
  · rw [decodes, Decode.ok_bind, datumsOf, datumsUnder, find_trees_of_current]
    cases found : (data.labels.getD OrderedMap.empty).find? label with
    | none => rfl
    | some record =>
        have there : record.json.isSome = true := by
          cases held : data.labels with
          | none =>
              rw [held] at found
              cases found
          | some labels =>
              rw [held] at found
              have member := (labels.find_eq_some_iff label record).mp found
              exact whole labels held record (List.mem_map_of_mem member)
        obtain ⟨tree, holds⟩ := Option.isSome_iff_exists.mp there
        simp only [Option.bind_some, holds]

/-- A document without labels is no document of the current schema. -/
theorem no_current_of_unlabelled (unlabelled : Json.get fields "labels" = .null) :
    ∃ complaint, Reading.attempt .auxiliaryData .current Current.AuxiliaryData.ofJson
      auxiliaryData.fitsCurrent (.object fields) = .error complaint := by
  cases outcome : Reading.attempt .auxiliaryData .current Current.AuxiliaryData.ofJson
      auxiliaryData.fitsCurrent (.object fields) with
  | error complaint => exact ⟨complaint, rfl⟩
  | ok data =>
      obtain ⟨reads, fits⟩ := Reading.attempt_eq_ok_iff.mp outcome
      simp only [Current.AuxiliaryData.ofJson, bind_eq_ok] at reads
      obtain ⟨_, same, hash, -, reads⟩ := reads
      cases same
      split at reads
      · cases reads
      · rw [unlabelled] at reads
        cases reads
        cases fits

theorem decode_legacy {legacy : Legacy.AuxiliaryData}
    (unlabelled : Json.get fields "labels" = .null)
    (reads : Legacy.AuxiliaryData.ofJson (.object fields) = .ok legacy)
    (full : legacy.blob.isSome = true) :
    auxiliaryData.decode (.object fields) = .ok legacy.toCurrent := by
  obtain ⟨complaint, unfit⟩ := no_current_of_unlabelled unlabelled
  exact Reading.decode_of_legacy unfit reads full

/-- What was read in either schema has labels, and none of them is too long. -/
theorem short_of_decode (decodes : auxiliaryData.decode json = .ok data) :
    data.labels.isSome = true ∧ data.isTooLong = false := by
  unfold Reading.decode at decodes
  split at decodes
  · next found =>
      cases decodes
      obtain ⟨reads, fits⟩ := Reading.attempt_eq_ok_iff.mp found
      exact ⟨fits, (Current.AuxiliaryData.writable_of_json reads).2⟩
  · split at decodes
    · next legacy found =>
        cases decodes
        obtain ⟨reads, -⟩ := Reading.attempt_eq_ok_iff.mp found
        exact ⟨rfl, Legacy.AuxiliaryData.short_to_current
          (Legacy.AuxiliaryData.short_of_json reads)⟩
    · cases decodes

theorem has_trees_to_current (legacy : Legacy.AuxiliaryData) : HasTrees legacy.toCurrent := by
  rintro labels same record member
  cases same
  obtain ⟨entry, held, rfl⟩ := List.mem_map.mp member
  obtain ⟨source, -, rfl⟩ := List.mem_map.mp held
  rfl

theorem datums_of_to_current (legacy : Legacy.AuxiliaryData) (label : Int) :
    datumsOf legacy.toCurrent label =
      datumsUnder (legacy.blob.getD OrderedMap.empty) label := by
  rw [datumsOf, Legacy.AuxiliaryData.toCurrent, Option.getD_some,
    Legacy.AuxiliaryData.trees_of_current_map]

theorem datums_of_current (labelled : data.labels.isSome = true) (label : Int) :
    datumsUnder ((ofCurrent data).blob.getD OrderedMap.empty) label = datumsOf data label := by
  obtain ⟨labels, held⟩ := Option.isSome_iff_exists.mp labelled
  rw [datumsOf, ofCurrent, held]
  rfl

/-- Metadata is written as a document without labels, so it is read under the legacy schema. -/
theorem decode_encode (labelled : data.labels.isSome = true) (short : data.isTooLong = false) :
    auxiliaryData.decode (encodeAuxiliaryData data) = .ok (ofCurrent data).toCurrent := by
  have reads : Legacy.AuxiliaryData.ofJson (encodeAuxiliaryData data) = .ok (ofCurrent data) :=
    Legacy.AuxiliaryData.of_json_to_json (Legacy.AuxiliaryData.short_of_current short)
  have full : (ofCurrent data).blob.isSome = true := by
    simpa only [ofCurrent, Option.isSome_map] using labelled
  obtain ⟨fields, object, unlabelled⟩ := Legacy.AuxiliaryData.unlabelled_to_json (ofCurrent data)
  rw [encodeAuxiliaryData, object] at reads ⊢
  exact decode_legacy unlabelled reads full

/-- All lookups find what the records of metadata hold, in the document that was read and in the
one that is written. -/
theorem datums_after_encode (decodes : auxiliaryData.decode json = .ok data)
    (whole : HasTrees data) (label : Int) :
    datumMap json label = .ok (datumsOf data label) ∧
      datumMap (encodeAuxiliaryData data) label = .ok (datumsOf data label) ∧
      Legacy.AuxiliaryData.datumMap (encodeAuxiliaryData data) label =
        .ok (datumsOf data label) := by
  obtain ⟨labelled, short⟩ := short_of_decode decodes
  refine ⟨datum_map_of_decode decodes whole label, ?_, ?_⟩
  · rw [datum_map_of_decode (decode_encode labelled short) (has_trees_to_current _),
      datums_of_to_current, datums_of_current labelled]
  · have reads : Legacy.AuxiliaryData.ofJson (encodeAuxiliaryData data) = .ok (ofCurrent data) :=
      Legacy.AuxiliaryData.of_json_to_json (Legacy.AuxiliaryData.short_of_current short)
    have there : encodeAuxiliaryData data ≠ .null := nofun
    rw [Legacy.AuxiliaryData.datum_map_of_json there reads, datums_of_current labelled]

theorem blob_of_body {legacy : Legacy.AuxiliaryData} (body : Json.get fields "body" ≠ .null)
    (reads : Legacy.AuxiliaryData.ofJson (.object fields) = .ok legacy) :
    legacy.blob.isSome = true := by
  simp only [Legacy.AuxiliaryData.ofJson, bind_eq_ok] at reads
  obtain ⟨_, same, _, optional, reads⟩ := reads
  cases same
  rw [Decode.optional_of_ne_null body] at optional
  obtain ⟨inner, -, rfl⟩ := map_eq_ok.mp optional
  obtain ⟨blob, found, rest⟩ := bind_eq_ok.mp reads
  obtain ⟨trees, -, rfl⟩ := map_eq_ok.mp found
  obtain ⟨hash, -, same⟩ := bind_eq_ok.mp rest
  cases same
  rfl

/-- A legacy document is refused by both lookups or by none. -/
theorem datum_map_of_legacy (body : Json.get fields "body" ≠ .null)
    (unlabelled : Json.get fields "labels" = .null) :
    ∃ complaint, ∀ label, datumMap (.object fields) label =
      (Legacy.AuxiliaryData.datumMap (.object fields) label).mapError fun legacy =>
        .decode (.incompatible .auxiliaryData complaint legacy) := by
  obtain ⟨complaint, unfit⟩ := no_current_of_unlabelled unlabelled
  refine ⟨complaint, fun label => ?_⟩
  have there : Json.object fields ≠ .null := nofun
  cases read : Legacy.AuxiliaryData.ofJson (.object fields) with
  | ok legacy =>
      have decodes := decode_legacy unlabelled read (blob_of_body body read)
      rw [datum_map_of_decode decodes (has_trees_to_current legacy), datums_of_to_current,
        Legacy.AuxiliaryData.datum_map_of_json there read]
      rfl
  | error error =>
      have refused : Reading.attempt .auxiliaryData .legacy Legacy.AuxiliaryData.ofJson
          auxiliaryData.fitsLegacy (.object fields) = .error error := by
        simp only [Reading.attempt, read]
      have fails : auxiliaryData.decode (.object fields) =
          .error (.decode (.incompatible .auxiliaryData complaint error)) :=
        Reading.decode_of_neither unfit refused
      rw [Legacy.AuxiliaryData.datum_map_of_error there read]
      simp only [datumMap, fails]
      rfl

/-- Metadata that was read in either schema is written in the legacy one, and all lookups find
the same datums in both documents. A legacy document with a body is refused by both lookups, for
the same reason in the legacy schema, or they find the same datums in it. -/
theorem datums_alike_in_schemas :
    (∀ json data, auxiliaryData.decode json = .ok data → HasTrees data →
      (ofCurrent data).written = .ok (encodeAuxiliaryData data) ∧
      ∀ label, datumMap json label = .ok (datumsOf data label) ∧
        datumMap (encodeAuxiliaryData data) label = .ok (datumsOf data label) ∧
        Legacy.AuxiliaryData.datumMap (encodeAuxiliaryData data) label =
          .ok (datumsOf data label)) ∧
    ∀ fields, Json.get fields "body" ≠ .null → Json.get fields "labels" = .null →
      ∃ complaint, ∀ label, datumMap (.object fields) label =
        (Legacy.AuxiliaryData.datumMap (.object fields) label).mapError fun legacy =>
          .decode (.incompatible .auxiliaryData complaint legacy) := by
  refine ⟨fun json data decodes whole => ⟨?_, datums_after_encode decodes whole⟩,
    fun fields body unlabelled => datum_map_of_legacy body unlabelled⟩
  exact guarded_of_short
    (Legacy.AuxiliaryData.short_of_current (short_of_decode decodes).2)

/-- Metadata with a datum of two chunks under one label. -/
def oneDatum : Current.AuxiliaryData :=
  ⟨"aa", some (OrderedMap.ofList
    [(7, ⟨none, some (.map [(.bytes [1], .list [.bytes [2], .bytes [3]])])⟩)])⟩

/-- The datum is found in both documents, and so it is in the legacy document by itself. -/
theorem one_datum_found_alike :
    auxiliaryData.decode oneDatum.toJson = .ok oneDatum ∧ HasTrees oneDatum ∧
    datumMap (encodeAuxiliaryData oneDatum) 7 = .ok (OrderedMap.ofList [("01", [2, 3])]) ∧
    Legacy.AuxiliaryData.datumMap (encodeAuxiliaryData oneDatum) 7 =
      .ok (OrderedMap.ofList [("01", [2, 3])]) ∧
    ∃ complaint, ∀ label, datumMap (.object [("body", .object [])]) label =
      (Legacy.AuxiliaryData.datumMap (.object [("body", .object [])]) label).mapError
        fun legacy => .decode (.incompatible .auxiliaryData complaint legacy) := by
  have decodes : auxiliaryData.decode oneDatum.toJson = .ok oneDatum := by decide +kernel
  have whole : HasTrees oneDatum := by
    rintro labels same record member
    cases same
    cases List.mem_singleton.mp member
    rfl
  have datums : datumsOf oneDatum 7 = OrderedMap.ofList [("01", [2, 3])] := by decide +kernel
  obtain ⟨-, lookups⟩ := datums_alike_in_schemas.1 oneDatum.toJson oneDatum decodes whole
  obtain ⟨-, encoded, legacy⟩ := lookups 7
  rw [datums] at encoded legacy
  exact ⟨decodes, whole, encoded, legacy,
    datums_alike_in_schemas.2 [("body", .object [])] nofun rfl⟩

end Adaptive

end NodeBridge
