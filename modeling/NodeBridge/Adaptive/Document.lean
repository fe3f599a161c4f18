import NodeBridge.Legacy.Auxiliary
import NodeBridge.Legacy.Response

/-!
Documents of either schema. Each kind of document is read under the current schema first
and under the legacy one next. What is read must look like a document of its schema, for a
loose reading of the wrong one often succeeds; the first fitting reading is converted to
the current schema. Writing always gives the legacy form.
-/

namespace NodeBridge.Adaptive

/-- How to read one kind of document in either schema. -/
structure Reading (α β : Type) where
  kind : DocumentKind
  current : Json → Decoded α
  fitsCurrent : α → Json → Bool
  legacy : Json → Decoded β
  fitsLegacy : β → Json → Bool
  convert : β → Converted α

namespace Reading

variable {α β γ : Type}

/-- A reading under one schema that must look like a document of it. -/
def attempt (kind : DocumentKind) (schema : Schema) (read : Json → Decoded γ)
    (fits : γ → Json → Bool) (json : Json) : Decoded γ :=
  match read json with
  | .ok value => if fits value json then .ok value else .error (.otherSchema schema kind)
  | .error error => .error error

def decode (reading : Reading α β) (json : Json) : Converted α :=
  match attempt reading.kind .current reading.current reading.fitsCurrent json with
  | .ok value => .ok value
  | .error current =>
      match attempt reading.kind .legacy reading.legacy reading.fitsLegacy json with
      | .ok value => reading.convert value
      | .error legacy => .error (.decode (.incompatible reading.kind current legacy))

end Reading

/-- Whether a document is an object without any of some fields. -/
def isObjectWithout (names : List String) : Json → Bool
  | .object fields => names.all fun name => !Json.has fields name
  | _ => false

def value : Reading Value Legacy.FlatValue where
  kind := .value
  current := Value.ofJson
  fitsCurrent := fun _ json => isObjectWithout ["coins", "assets"] json
  legacy := Legacy.FlatValue.ofJson
  fitsLegacy := fun _ json => isObjectWithout [] json
  convert := fun value => .ok value.toCurrent

def transaction : Reading Current.Transaction Legacy.Transaction where
  kind := .transaction
  current := Current.Transaction.ofJson
  fitsCurrent := fun transaction _ => !transaction.spends.isEmpty
  legacy := Legacy.Transaction.ofJson
  fitsLegacy := fun transaction _ => !transaction.raw.isEmpty
  convert := fun transaction => transaction.toCurrent.converted

def output : Reading Current.Output Legacy.Output where
  kind := .output
  current := Current.Output.ofJson
  fitsCurrent := fun output _ => !output.address.isEmpty
  legacy := Legacy.Output.ofJson
  fitsLegacy := fun output _ => !output.address.isEmpty
  convert := fun output => .ok output.toCurrent

def intersectionResult : Reading Current.IntersectionResult Legacy.IntersectionResult where
  kind := .intersectionResult
  current := Current.IntersectionResult.ofJson
  fitsCurrent := fun result _ => result.intersection.isSome || result.error.isSome
  legacy := Legacy.IntersectionResult.ofJson
  fitsLegacy := fun _ _ => true
  convert := fun result => .ok result.toCurrent

def blockResult : Reading Current.BlockResult Legacy.BlockResult where
  kind := .blockResult
  current := Current.BlockResult.ofJson
  fitsCurrent := fun result _ => !result.direction.isEmpty
  legacy := Legacy.BlockResult.ofJson
  fitsLegacy := fun _ _ => true
  convert := Legacy.BlockResult.toCurrent

def holdsOutcome : Json → Bool
  | .object fields => !(Json.get fields "result").isNull || !(Json.get fields "error").isNull
  | _ => false

def response : Reading Current.Response Legacy.Response where
  kind := .response
  current := Current.Response.ofJson
  fitsCurrent := fun _ json => holdsOutcome json
  legacy := Legacy.Response.ofJson
  fitsLegacy := fun _ _ => true
  convert := Legacy.Response.toCurrent

def auxiliaryData : Reading Current.AuxiliaryData Legacy.AuxiliaryData where
  kind := .auxiliaryData
  current := Current.AuxiliaryData.ofJson
  fitsCurrent := fun data _ => data.labels.isSome
  legacy := Legacy.AuxiliaryData.ofJson
  fitsLegacy := fun data _ => data.blob.isSome
  convert := fun data => .ok data.toCurrent

/-- A response from the bytes of its document. -/
def decodeResponse (bytes : Bytes) : Converted Current.Response := do
  let json ← (Decode.parseBytes bytes).converted
  response.decode json

/-- A bare result of either method. Only when neither schema fits the first method is the
second one tried. -/
def decodeResult (json : Json) : Converted Current.Result :=
  match intersectionResult.decode json with
  | .ok result => .ok (.intersection result)
  | .error (.decode (.incompatible kind current legacy)) =>
      match blockResult.decode json with
      | .ok result => .ok (.block result)
      | .error (.decode (.incompatible otherKind otherCurrent otherLegacy)) =>
          .error (.decode (.incompatibleResult (.incompatible kind current legacy)
            (.incompatible otherKind otherCurrent otherLegacy)))
      | .error error => .error error
  | .error error => .error error

def encodeValue (value : Value) : Json := (Legacy.FlatValue.ofCurrent value).toJson

def encodeTransaction (transaction : Current.Transaction) : Json :=
  (Legacy.Transaction.ofCurrent transaction).toJson

def encodeOutput (output : Current.Output) : Json := (Legacy.Output.ofCurrent output).toJson

/-- A result without intersection and error is written as one that was not found. -/
def encodeIntersectionResult (result : Current.IntersectionResult) : Json :=
  ((Legacy.IntersectionResult.ofCurrent? result).getD
    (.notFound (result.tip.map Legacy.BlockPoint.ofCurrent))).toJson

def encodeBlockResult (result : Current.BlockResult) : Converted Json := do
  match ← Legacy.BlockResult.ofCurrent? result with
  | some legacy => .ok legacy.toJson
  | none => .error (.decode (.unknownDirection result.direction))

def encodeResult : Current.Result → Converted Json
  | .intersection result => .ok (encodeIntersectionResult result)
  | .block result => encodeBlockResult result

def encodeResponse (response : Current.Response) : Converted Json :=
  (Legacy.Response.ofCurrent response).map Legacy.Response.toJson

def encodeAuxiliaryData (data : Current.AuxiliaryData) : Json :=
  (Legacy.AuxiliaryData.ofCurrent data).toJson

/-- The datums under one label of the metadata of a transaction, in either schema. -/
def datumMap (json : Json) (label : Int) : Converted (OrderedMap String Bytes) :=
  match json with
  | .null => .ok OrderedMap.empty
  | json => do
      let data ← auxiliaryData.decode json
      match (data.labels.getD OrderedMap.empty).find? label with
      | none => .ok OrderedMap.empty
      | some record =>
          match record.json with
          | some tree => .ok tree.datums
          | none => .error (.decode (.metadatumJsonMissing label))

/-! Transactions of the mempool. Whatever can be read under the current schema is taken, also when
it does not say what it spends; the legacy schema is used only for a document that carries the raw
transaction. -/

def legacyMempoolTransaction (current : DecodeError) (json : Json) :
    Decoded Current.Transaction :=
  match Legacy.Transaction.ofJson json >>= Legacy.Transaction.toCurrent with
  | .ok transaction => .ok transaction
  | .error legacy => .error (.incompatible .transaction current legacy)

def mempoolTransaction (json : Json) : Decoded Current.Transaction := do
  let fields ← Decode.object "transaction" json
  let raw ← Decode.text "tx.raw" (Json.get fields "raw")
  match Current.Transaction.ofJson (.object fields) with
  | .ok transaction =>
      if !transaction.spends.isEmpty || raw.isEmpty then .ok transaction
      else legacyMempoolTransaction .rawWithoutSpends (.object fields)
  | .error error =>
      if raw.isEmpty then .error error else legacyMempoolTransaction error (.object fields)

end NodeBridge.Adaptive
