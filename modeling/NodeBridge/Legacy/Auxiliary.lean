import NodeBridge.Metadata.Auxiliary
import NodeBridge.Metadata.ChunkedDatums

/-!
The metadata of a transaction in the legacy schema, where each label leads to a tree, and
its conversion both ways.
-/

namespace NodeBridge.Legacy

structure AuxiliaryData where
  hash : String
  blob : Option (OrderedMap Int Metadatum)
deriving DecidableEq

namespace AuxiliaryData

/-- A label is read before its tree. -/
def readTrees : Fields → Decoded (List (Int × Metadatum))
  | [] => .ok []
  | (name, json) :: fields => do
      let label ← readLabel name
      let tree ← Metadatum.ofJson json
      let trees ← readTrees fields
      .ok ((label, tree) :: trees)

def readBlob (json : Json) : Decoded (OrderedMap Int Metadatum) := do
  let fields ← Decode.object "metadata" json
  let trees ← readTrees fields
  .ok (OrderedMap.ofList trees)

def ofJson (json : Json) : Decoded AuxiliaryData := do
  let fields ← Decode.object "auxiliary data" json
  let body ← Decode.optional (Decode.object "auxiliary data body") (Json.get fields "body")
  let blob ← match body with
    | some body => (readBlob (Json.get body "blob")).map some
    | none => .ok none
  let hash ← Decode.text "auxiliary data hash" (Json.get fields "hash")
  .ok ⟨hash, blob⟩

def toJson (data : AuxiliaryData) : Json :=
  .object (("hash", .text data.hash) ::
    match data.blob with
    | some blob =>
        [("body", .object [("blob", Current.AuxiliaryData.labelFields Metadatum.toJson blob)])]
    | none => [])

def isTooLong (data : AuxiliaryData) : Bool := data.blob.any hasLongLabel

/-- The document, unless a label would have too many digits. -/
def written (data : AuxiliaryData) : Decoded Json :=
  if data.isTooLong then .error .numberTooLong else .ok data.toJson

def toCurrent (data : AuxiliaryData) : Current.AuxiliaryData :=
  ⟨data.hash, some ((data.blob.getD OrderedMap.empty).map fun tree => ⟨none, some tree⟩)⟩

/-- Records in binary form only are dropped. -/
def treesOfCurrent (labels : OrderedMap Int Current.MetadataRecord) : OrderedMap Int Metadatum :=
  OrderedMap.ofList (labels.entries.filterMap fun entry =>
    entry.2.json.map fun tree => (entry.1, tree))

def ofCurrent (data : Current.AuxiliaryData) : AuxiliaryData :=
  ⟨data.hash, data.labels.map treesOfCurrent⟩

/-- The datums under one label of a document. -/
def datumMap (json : Json) (label : Int) : Decoded (OrderedMap String Bytes) :=
  match json with
  | .null => .ok OrderedMap.empty
  | json => do
      let data ← ofJson json
      match (data.blob.getD OrderedMap.empty).find? label with
      | some tree => .ok tree.datums
      | none => .ok OrderedMap.empty

end AuxiliaryData

end NodeBridge.Legacy
