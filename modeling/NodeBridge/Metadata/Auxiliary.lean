import NodeBridge.Metadata.Metadatum

/-!
The metadata of a transaction in the current schema: records by whole-numbered labels,
each in binary form, as a tree, or both.
-/

namespace NodeBridge

def readLabel (label : String) : Decoded Int :=
  match Text.readInteger label.toList with
  | some value => .ok value
  | none => .error (.labelNotWhole label)

/-- Whether a label has too many digits to be written. -/
def hasLongLabel {α : Type} (labels : OrderedMap Int α) : Bool := labels.keys.any Text.isTooLong

namespace Current

structure MetadataRecord where
  cbor : Option String
  json : Option Metadatum
deriving DecidableEq

namespace MetadataRecord

def ofJson (json : Json) : Decoded MetadataRecord := do
  let fields ← Decode.object "metadata label" json
  let cbor ← Decode.optional (Decode.text "metadata label cbor") (Json.get fields "cbor")
  let tree ← Decode.optional Metadatum.ofJson (Json.get fields "json")
  .ok ⟨cbor, tree⟩

def toJson (record : MetadataRecord) : Json :=
  .object
    ((match record.cbor with
      | some cbor => [("cbor", .text cbor)]
      | none => []) ++
    match record.json with
    | some tree => [("json", tree.toJson)]
    | none => [])

end MetadataRecord

structure AuxiliaryData where
  hash : String
  labels : Option (OrderedMap Int MetadataRecord)
deriving DecidableEq

namespace AuxiliaryData

/-- A record is read before its label. -/
def readRecords : Fields → Decoded (List (Int × MetadataRecord))
  | [] => .ok []
  | (name, json) :: fields => do
      let record ← MetadataRecord.ofJson json
      let label ← readLabel name
      let records ← readRecords fields
      .ok ((label, record) :: records)

def readLabels (json : Json) : Decoded (OrderedMap Int MetadataRecord) := do
  let fields ← Decode.object "auxiliary data labels" json
  let records ← readRecords fields
  .ok (OrderedMap.ofList records)

def ofJson (json : Json) : Decoded AuxiliaryData := do
  let fields ← Decode.object "auxiliary data" json
  let hash ← Decode.text "auxiliary data hash" (Json.get fields "hash")
  if hash.isEmpty then .error .auxiliaryHashEmpty
  else do
    let labels ← Decode.optional readLabels (Json.get fields "labels")
    .ok ⟨hash, labels⟩

def labelFields {α : Type} (write : α → Json) (labels : OrderedMap Int α) : Json :=
  .object (labels.entries.map fun entry => (Text.integerText entry.1, write entry.2))

def toJson (data : AuxiliaryData) : Json :=
  .object (("hash", .text data.hash) ::
    match data.labels with
    | some labels => [("labels", labelFields MetadataRecord.toJson labels)]
    | none => [])

def isTooLong (data : AuxiliaryData) : Bool := data.labels.any hasLongLabel

/-- The document, unless a label would have too many digits. -/
def written (data : AuxiliaryData) : Decoded Json :=
  if data.isTooLong then .error .numberTooLong else .ok data.toJson

end AuxiliaryData

end Current

end NodeBridge
