import NodeBridge.Current.Transaction
import NodeBridge.Legacy.Value
import NodeBridge.Text.Base64

/-!
Transactions in the legacy schema and their conversion both ways. Binary contents are in
base 64, fees and withdrawals are plain numbers of lovelace, and signatures are kept apart
by their kind.
-/

namespace NodeBridge.Legacy

structure Input where
  transaction : String
  index : Int
deriving DecidableEq, Inhabited, Repr

namespace Input

def ofJson (json : Json) : Decoded Input := do
  let fields ← Decode.object "input" json
  let transaction ← Decode.text "input.txId" (Json.get fields "txId")
  let index ← Decode.integer "input.index" (Json.get fields "index")
  .ok ⟨transaction, index⟩

def toJson (input : Input) : Json :=
  .object [("txId", .text input.transaction), ("index", .int input.index)]

def reference (input : Input) : OutputReference :=
  OutputReference.ofParts input.transaction input.index

def toCurrent (input : Input) : Current.Input := ⟨input.transaction, input.index⟩

def ofCurrent (input : Current.Input) : Input := ⟨input.transaction, input.index⟩

end Input

structure Output where
  address : String
  datum : String
  datumHash : String
  value : FlatValue
  script : Json
deriving DecidableEq, Inhabited

namespace Output

def ofJson (json : Json) : Decoded Output := do
  let fields ← Decode.object "output" json
  let address ← Decode.text "output.address" (Json.get fields "address")
  let datum ← Decode.text "output.datum" (Json.get fields "datum")
  let datumHash ← Decode.text "output.datumHash" (Json.get fields "datumHash")
  let value ← FlatValue.ofJson (Json.get fields "value")
  .ok ⟨address, datum, datumHash, value, Json.get fields "script"⟩

def toJson (output : Output) : Json :=
  .object (Json.compact [] [("address", .text output.address), ("datum", .text output.datum),
    ("datumHash", .text output.datumHash), ("value", output.value.toJson),
    ("script", output.script)])

def toCurrent (output : Output) : Current.Output :=
  ⟨output.address, output.datum, output.datumHash, output.value.toCurrent, output.script⟩

def ofCurrent (output : Current.Output) : Output :=
  ⟨output.address, output.datum, output.datumHash, FlatValue.ofCurrent output.value,
    output.script⟩

/-- The place of the first output that holds an asset. -/
def indexOfAsset? (outputs : List Output) (asset : String) : Option Nat :=
  outputs.findIdx? fun output => output.value.assets.contains asset

end Output

structure ValidityInterval where
  invalidBefore : Int
  invalidHereafter : Int
deriving DecidableEq, Inhabited, Repr

namespace ValidityInterval

def ofJson (json : Json) : Decoded ValidityInterval := do
  let fields ← Decode.object "validityInterval" json
  let before ←
    Decode.integer "validityInterval.invalidBefore" (Json.get fields "invalidBefore")
  let hereafter ←
    Decode.integer "validityInterval.invalidHereafter" (Json.get fields "invalidHereafter")
  .ok ⟨before, hereafter⟩

def toJson (interval : ValidityInterval) : Json :=
  .object (Json.compact [] [("invalidBefore", .int interval.invalidBefore),
    ("invalidHereafter", .int interval.invalidHereafter)])

def toCurrent (interval : ValidityInterval) : Current.ValidityInterval :=
  ⟨interval.invalidBefore, interval.invalidHereafter⟩

def ofCurrent (interval : Current.ValidityInterval) : ValidityInterval :=
  ⟨interval.invalidBefore, interval.invalidAfter⟩

end ValidityInterval

structure Witness where
  bootstrap : List Fields
  datums : Datums
  redeemers : Json
  scripts : Json
  signatures : OrderedMap String String
deriving DecidableEq

namespace Witness

def ofJson (json : Json) : Decoded Witness := do
  let fields ← Decode.object "witness" json
  let signatures ← Decode.map "witness.signatures"
    (fun _ => Decode.text "witness.signatures") (Json.get fields "signatures")
  let bootstrap ← Decode.listOf "witness.bootstrap" (Decode.object "witness.bootstrap")
    (Json.get fields "bootstrap")
  let datums ← Datums.ofJson (Json.get fields "datums")
  .ok ⟨bootstrap, datums, Json.get fields "redeemers", Json.get fields "scripts", signatures⟩

def toJson (witness : Witness) : Json :=
  .object (Json.compact ["datums"] [
    ("bootstrap", .list (witness.bootstrap.map .object)),
    ("datums", witness.datums.toJson),
    ("redeemers", witness.redeemers),
    ("scripts", witness.scripts),
    ("signatures", Json.ofMap .text witness.signatures)])

/-- A signature of a bootstrap key, its binary parts in hexadecimal digits. -/
def bootstrapSignatory (entry : Fields) : Decoded Current.Signatory := do
  let signatory ← Current.Signatory.ofJson (.object entry)
  .ok { signatory with
    signature := Text.base64ToHex signatory.signature
    addressAttributes := Text.base64ToHex signatory.addressAttributes }

def bootstrapSignatories : List Fields → Decoded (List Current.Signatory)
  | [] => .ok []
  | entry :: entries => do
      let signatory ← bootstrapSignatory entry
      let signatories ← bootstrapSignatories entries
      .ok (signatory :: signatories)

def plainSignatory (entry : String × String) : Current.Signatory :=
  ⟨entry.1, Text.base64ToHex entry.2, "", ""⟩

/-- All signatures in ascending order of their keys, for each key those of bootstrap
addresses first. -/
def signatories (witness : Witness) : Decoded (List Current.Signatory) := do
  let bootstrap ← bootstrapSignatories witness.bootstrap
  let plain := witness.signatures.entries.map plainSignatory
  .ok ((bootstrap ++ plain).mergeSort fun left right => !decide (right.key < left.key))

/-- A signature with its binary parts in base 64. -/
def legacySignatory (signatory : Current.Signatory) : Current.Signatory :=
  { signatory with
    signature := Text.hexToBase64 signatory.signature
    addressAttributes := Text.hexToBase64 signatory.addressAttributes }

def bootstrapOfCurrent (signatories : List Current.Signatory) : List Fields :=
  (signatories.filter Current.Signatory.isBootstrap).map fun signatory =>
    (legacySignatory signatory).fields

def signaturesOfCurrent (signatories : List Current.Signatory) : OrderedMap String String :=
  OrderedMap.ofList ((signatories.filter fun signatory => !signatory.isBootstrap).map
    fun signatory => (signatory.key, Text.hexToBase64 signatory.signature))

end Witness

structure Body where
  certificates : List Json
  collaterals : List Input
  fee : Int
  inputs : List Input
  mint : Option FlatValue
  network : Json
  outputs : List Output
  requiredExtraSignatures : List String
  scriptIntegrityHash : String
  timeToLive : Int
  update : Json
  validityInterval : ValidityInterval
  withdrawals : OrderedMap String Int
  collateralReturn : Option Output
  totalCollateral : Option Int
  references : List Input
deriving DecidableEq

namespace Body

def ofJson (json : Json) : Decoded Body := do
  let fields ← Decode.object "body" json
  let field := Json.get fields
  let certificates ← Decode.list "body.certificates" (field "certificates")
  let collaterals ← Decode.listOf "body.collaterals" Input.ofJson (field "collaterals")
  let fee ← Decode.integer "body.fee" (field "fee")
  let inputs ← Decode.listOf "body.inputs" Input.ofJson (field "inputs")
  let mint ← Decode.optional FlatValue.ofJson (field "mint")
  let outputs ← Decode.listOf "body.outputs" Output.ofJson (field "outputs")
  let requiredExtraSignatures ←
    Decode.listOf "body.requiredExtraSignatures" (Decode.text "body.requiredExtraSignatures")
      (field "requiredExtraSignatures")
  let scriptIntegrityHash ←
    Decode.text "body.scriptIntegrityHash" (field "scriptIntegrityHash")
  let timeToLive ← Decode.integer "body.timeToLive" (field "timeToLive")
  let validityInterval ← ValidityInterval.ofJson (field "validityInterval")
  let withdrawals ← Decode.map "body.withdrawals"
    (fun _ => Decode.integer "body.withdrawals") (field "withdrawals")
  let collateralReturn ← Decode.optional Output.ofJson (field "collateralReturn")
  let totalCollateral ←
    Decode.optional (Decode.integer "body.totalCollateral") (field "totalCollateral")
  let references ← Decode.listOf "body.references" Input.ofJson (field "references")
  .ok {
    certificates, collaterals, fee, inputs, mint, outputs, requiredExtraSignatures,
    scriptIntegrityHash, timeToLive, validityInterval, withdrawals, collateralReturn,
    totalCollateral, references,
    network := field "network"
    update := field "update" }

def toJson (body : Body) : Json :=
  .object (Json.compact ["validityInterval"] [
    ("certificates", .list body.certificates),
    ("collaterals", .list (body.collaterals.map Input.toJson)),
    ("fee", .int body.fee),
    ("inputs", .list (body.inputs.map Input.toJson)),
    ("mint", Json.ofOption FlatValue.toJson body.mint),
    ("network", body.network),
    ("outputs", .list (body.outputs.map Output.toJson)),
    ("requiredExtraSignatures", Json.ofTexts body.requiredExtraSignatures),
    ("scriptIntegrityHash", .text body.scriptIntegrityHash),
    ("timeToLive", .int body.timeToLive),
    ("update", body.update),
    ("validityInterval", body.validityInterval.toJson),
    ("withdrawals", Json.ofMap .int body.withdrawals),
    ("collateralReturn", Json.ofOption Output.toJson body.collateralReturn),
    ("totalCollateral", Json.ofOption .int body.totalCollateral),
    ("references", .list (body.references.map Input.toJson))])

def ofCurrent (transaction : Current.Transaction) : Body where
  certificates := transaction.certificates
  collaterals := transaction.collaterals.map Input.ofCurrent
  fee := transaction.fee.lovelace
  inputs := transaction.inputs.map Input.ofCurrent
  mint := some (FlatValue.ofCurrent transaction.mint)
  network := transaction.network
  outputs := transaction.outputs.map Output.ofCurrent
  requiredExtraSignatures := transaction.requiredExtraSignatories
  scriptIntegrityHash := transaction.scriptIntegrityHash
  timeToLive := 0
  update := transaction.proposals
  validityInterval := ValidityInterval.ofCurrent transaction.validityInterval
  withdrawals := transaction.withdrawals.map Value.lovelace
  collateralReturn := transaction.collateralReturn.map Output.ofCurrent
  totalCollateral := transaction.totalCollateral.map Value.lovelace
  references := transaction.references.map Input.ofCurrent

end Body

structure Transaction where
  id : String
  inputSource : String
  body : Body
  witness : Witness
  metadata : Json
  /-- The whole transaction in binary form, in base 64. -/
  raw : String
deriving DecidableEq

namespace Transaction

def ofJson (json : Json) : Decoded Transaction := do
  let fields ← Decode.object "transaction" json
  let id ← Decode.text "tx.id" (Json.get fields "id")
  let inputSource ← Decode.text "tx.inputSource" (Json.get fields "inputSource")
  let body ← Body.ofJson (Json.get fields "body")
  let witness ← Witness.ofJson (Json.get fields "witness")
  let raw ← Decode.text "tx.raw" (Json.get fields "raw")
  .ok ⟨id, inputSource, body, witness, Json.get fields "metadata", raw⟩

def toJson (transaction : Transaction) : Json :=
  .object (Json.compact ["body", "witness"] [
    ("id", .text transaction.id),
    ("inputSource", .text transaction.inputSource),
    ("body", transaction.body.toJson),
    ("witness", transaction.witness.toJson),
    ("metadata", transaction.metadata),
    ("raw", .text transaction.raw)])

/-- The parts that only the current schema has stay empty. -/
def toCurrent (transaction : Transaction) : Decoded Current.Transaction := do
  let body := transaction.body
  let witness := transaction.witness
  let signatories ← witness.signatories
  .ok {
    id := transaction.id
    spends := transaction.inputSource
    inputs := body.inputs.map Input.toCurrent
    references := body.references.map Input.toCurrent
    collaterals := body.collaterals.map Input.toCurrent
    totalCollateral := body.totalCollateral.map Value.ofLovelace
    collateralReturn := body.collateralReturn.map Output.toCurrent
    outputs := body.outputs.map Output.toCurrent
    certificates := body.certificates
    withdrawals := body.withdrawals.map Value.ofLovelace
    fee := Value.ofLovelace body.fee
    validityInterval := body.validityInterval.toCurrent
    mint := (body.mint.map FlatValue.toCurrent).getD Value.empty
    network := body.network
    scriptIntegrityHash := body.scriptIntegrityHash
    requiredExtraSignatories := body.requiredExtraSignatures
    requiredExtraScripts := []
    proposals := body.update
    votes := .null
    metadata := transaction.metadata
    signatories := signatories
    scripts := witness.scripts
    datums := witness.datums
    redeemers := witness.redeemers
    cbor := Text.base64ToHex transaction.raw }

def ofCurrent (transaction : Current.Transaction) : Transaction where
  id := transaction.id
  inputSource := transaction.spends
  body := Body.ofCurrent transaction
  witness := {
    bootstrap := Witness.bootstrapOfCurrent transaction.signatories
    datums := transaction.datums
    redeemers := transaction.redeemers
    scripts := transaction.scripts
    signatures := Witness.signaturesOfCurrent transaction.signatories }
  metadata := transaction.metadata
  raw := Text.hexToBase64 transaction.cbor

end Transaction

end NodeBridge.Legacy
