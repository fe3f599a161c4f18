import NodeBridge.Chain.OutputReference
import NodeBridge.Ledger.Datums
import NodeBridge.Ledger.Value

/-!
Transactions in the current schema. Binary contents are hexadecimal digits, and amounts of
any kind are values of many assets. Parts that the bridge only passes on stay documents.
-/

namespace NodeBridge.Current

structure Input where
  transaction : String
  index : Int
deriving DecidableEq, Inhabited, Repr

namespace Input

def ofJson (json : Json) : Decoded Input := do
  let fields ← Decode.object "input" json
  let transaction ← Decode.object "input.transaction" (Json.get fields "transaction")
  let id ← Decode.text "input.transaction.id" (Json.get transaction "id")
  let index ← Decode.integer "input.index" (Json.get fields "index")
  .ok ⟨id, index⟩

def toJson (input : Input) : Json :=
  .object [("transaction", .object [("id", .text input.transaction)]),
    ("index", .int input.index)]

def reference (input : Input) : OutputReference :=
  OutputReference.ofParts input.transaction input.index

end Input

structure Output where
  address : String
  datum : String
  datumHash : String
  value : Value
  script : Json
deriving DecidableEq, Inhabited

namespace Output

def ofJson (json : Json) : Decoded Output := do
  let fields ← Decode.object "output" json
  let address ← Decode.text "output.address" (Json.get fields "address")
  let datum ← Decode.text "output.datum" (Json.get fields "datum")
  let datumHash ← Decode.text "output.datumHash" (Json.get fields "datumHash")
  let value ← Value.ofJson (Json.get fields "value")
  .ok ⟨address, datum, datumHash, value, Json.get fields "script"⟩

def toJson (output : Output) : Json :=
  .object (Json.compact [] [("address", .text output.address), ("datum", .text output.datum),
    ("datumHash", .text output.datumHash), ("value", output.value.toJson),
    ("script", output.script)])

end Output

structure ValidityInterval where
  invalidBefore : Int
  invalidAfter : Int
deriving DecidableEq, Inhabited, Repr

namespace ValidityInterval

def ofJson (json : Json) : Decoded ValidityInterval := do
  let fields ← Decode.object "validityInterval" json
  let before ←
    Decode.integer "validityInterval.invalidBefore" (Json.get fields "invalidBefore")
  let after ← Decode.integer "validityInterval.invalidAfter" (Json.get fields "invalidAfter")
  .ok ⟨before, after⟩

def toJson (interval : ValidityInterval) : Json :=
  .object (Json.compact [] [("invalidBefore", .int interval.invalidBefore),
    ("invalidAfter", .int interval.invalidAfter)])

end ValidityInterval

/-- A signature and the key that made it. Keys of bootstrap addresses add a chain code or
the attributes of their address. -/
structure Signatory where
  key : String
  signature : String
  chainCode : String
  addressAttributes : String
deriving DecidableEq, Inhabited, Repr

namespace Signatory

def ofJson (json : Json) : Decoded Signatory := do
  let fields ← Decode.object "signatory" json
  let key ← Decode.text "signatory.key" (Json.get fields "key")
  let signature ← Decode.text "signatory.signature" (Json.get fields "signature")
  let chainCode ← Decode.text "signatory.chainCode" (Json.get fields "chainCode")
  let attributes ←
    Decode.text "signatory.addressAttributes" (Json.get fields "addressAttributes")
  .ok ⟨key, signature, chainCode, attributes⟩

def fields (signatory : Signatory) : Fields :=
  Json.compact ["key", "signature"] [("key", .text signatory.key),
    ("signature", .text signatory.signature), ("chainCode", .text signatory.chainCode),
    ("addressAttributes", .text signatory.addressAttributes)]

def toJson (signatory : Signatory) : Json := .object signatory.fields

def isBootstrap (signatory : Signatory) : Bool :=
  !signatory.chainCode.isEmpty || !signatory.addressAttributes.isEmpty

end Signatory

structure Transaction where
  id : String
  spends : String
  inputs : List Input
  references : List Input
  collaterals : List Input
  totalCollateral : Option Value
  collateralReturn : Option Output
  outputs : List Output
  certificates : List Json
  withdrawals : OrderedMap String Value
  fee : Value
  validityInterval : ValidityInterval
  mint : Value
  network : Json
  scriptIntegrityHash : String
  requiredExtraSignatories : List String
  requiredExtraScripts : List String
  proposals : Json
  votes : Json
  metadata : Json
  signatories : List Signatory
  scripts : Json
  datums : Datums
  redeemers : Json
  cbor : String
deriving DecidableEq

namespace Transaction

def ofJson (json : Json) : Decoded Transaction := do
  let fields ← Decode.object "transaction" json
  let field := Json.get fields
  let id ← Decode.text "tx.id" (field "id")
  let spends ← Decode.text "tx.spends" (field "spends")
  let inputs ← Decode.listOf "tx.inputs" Input.ofJson (field "inputs")
  let references ← Decode.listOf "tx.references" Input.ofJson (field "references")
  let collaterals ← Decode.listOf "tx.collaterals" Input.ofJson (field "collaterals")
  let totalCollateral ← Decode.optional Value.ofJson (field "totalCollateral")
  let collateralReturn ← Decode.optional Output.ofJson (field "collateralReturn")
  let outputs ← Decode.listOf "tx.outputs" Output.ofJson (field "outputs")
  let certificates ← Decode.list "tx.certificates" (field "certificates")
  let withdrawals ←
    Decode.map "tx.withdrawals" (fun _ => Value.ofJson) (field "withdrawals")
  let fee ← Value.ofJson (field "fee")
  let validityInterval ← ValidityInterval.ofJson (field "validityInterval")
  let mint ← Value.ofJson (field "mint")
  let scriptIntegrityHash ← Decode.text "tx.scriptIntegrityHash" (field "scriptIntegrityHash")
  let requiredExtraSignatories ←
    Decode.listOf "tx.requiredExtraSignatories" (Decode.text "tx.requiredExtraSignatories")
      (field "requiredExtraSignatories")
  let requiredExtraScripts ←
    Decode.listOf "tx.requiredExtraScripts" (Decode.text "tx.requiredExtraScripts")
      (field "requiredExtraScripts")
  let signatories ← Decode.listOf "tx.signatories" Signatory.ofJson (field "signatories")
  let datums ← Datums.ofJson (field "datums")
  let cbor ← Decode.text "tx.cbor" (field "cbor")
  .ok {
    id, spends, inputs, references, collaterals, totalCollateral, collateralReturn, outputs,
    certificates, withdrawals, fee, validityInterval, mint, scriptIntegrityHash,
    requiredExtraSignatories, requiredExtraScripts, signatories, datums, cbor,
    network := field "network"
    proposals := field "proposals"
    votes := field "votes"
    metadata := field "metadata"
    scripts := field "scripts"
    redeemers := field "redeemers" }

def toJson (transaction : Transaction) : Json :=
  .object (Json.compact ["validityInterval", "datums"] [
    ("id", .text transaction.id),
    ("spends", .text transaction.spends),
    ("inputs", .list (transaction.inputs.map Input.toJson)),
    ("references", .list (transaction.references.map Input.toJson)),
    ("collaterals", .list (transaction.collaterals.map Input.toJson)),
    ("totalCollateral", Json.ofOption Value.toJson transaction.totalCollateral),
    ("collateralReturn", Json.ofOption Output.toJson transaction.collateralReturn),
    ("outputs", .list (transaction.outputs.map Output.toJson)),
    ("certificates", .list transaction.certificates),
    ("withdrawals", Json.ofMap Value.toJson transaction.withdrawals),
    ("fee", transaction.fee.toJson),
    ("validityInterval", transaction.validityInterval.toJson),
    ("mint", transaction.mint.toJson),
    ("network", transaction.network),
    ("scriptIntegrityHash", .text transaction.scriptIntegrityHash),
    ("requiredExtraSignatories", Json.ofTexts transaction.requiredExtraSignatories),
    ("requiredExtraScripts", Json.ofTexts transaction.requiredExtraScripts),
    ("proposals", transaction.proposals),
    ("votes", transaction.votes),
    ("metadata", transaction.metadata),
    ("signatories", .list (transaction.signatories.map Signatory.toJson)),
    ("scripts", transaction.scripts),
    ("datums", transaction.datums.toJson),
    ("redeemers", transaction.redeemers),
    ("cbor", .text transaction.cbor)])

end Transaction

end NodeBridge.Current
