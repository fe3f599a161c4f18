import NodeBridge.Legacy.Transaction
import NodeBridge.Proofs.Legacy.Value

/-!
Printed legacy transactions are read back. Every field comes back as it was, but for what
printing drops: documents that are passed on and say nothing, and a total collateral of zero.
Each record has a settled form, which is what comes back of it. Only datums may fail to be
read, and those that were read once do not.
-/

namespace NodeBridge

namespace Datums

/-- Datums in hexadecimal digits, as they are after reading. -/
def Readable (datums : Datums) : Prop :=
  ∀ entry ∈ datums.entries, (Text.decodeHex entry.2).isSome = true

theorem of_json_to_json {datums : Datums} (readable : datums.Readable) :
    ofJson datums.toJson = .ok datums := by
  apply Decode.map_of_map_same
  intro entry member
  have decoded := readable entry member
  rw [Option.isSome_iff_exists] at decoded
  obtain ⟨bytes, decoded⟩ := decoded
  simp only [readDatum, decoded]

end Datums

namespace Legacy

open Json Decode

theorem Input.of_json_to_json (input : Input) : ofJson input.toJson = .ok input := by
  simp [ofJson, toJson, get_cons]

theorem ValidityInterval.of_json_to_json (interval : ValidityInterval) :
    ofJson interval.toJson = .ok interval := by
  simp [ofJson, toJson, get_compact, get_cons]

namespace Output

def settle (output : Output) : Output := { output with script := output.script.settle }

theorem of_json_to_json (output : Output) : ofJson output.toJson = .ok output.settle := by
  simp [ofJson, toJson, get_compact, get_cons, settle_of_not_bare output.value.is_bare_to_json,
    FlatValue.of_json_to_json, settle]

theorem is_bare_to_json (output : Output) : output.toJson.isBare = false := by
  have full := output.value.is_bare_to_json
  have member : ("value", output.value.toJson) ∈ compact [] [("address", .text output.address),
      ("datum", .text output.datum), ("datumHash", .text output.datumHash),
      ("value", output.value.toJson), ("script", output.script)] := by
    simp [compact, full]
  unfold toJson isBare
  rw [List.isEmpty_eq_false_iff]
  exact List.ne_nil_of_mem member

end Output

namespace Body

def settle (body : Body) : Body :=
  { body with
    network := body.network.settle
    outputs := body.outputs.map Output.settle
    update := body.update.settle
    collateralReturn := body.collateralReturn.map Output.settle
    totalCollateral := body.totalCollateral.filter (· ≠ 0) }

theorem of_json_to_json (body : Body) : ofJson body.toJson = .ok body.settle := by
  have inputs (what : String) (items : List Input) :
      listOf what Input.ofJson (Json.list (items.map Input.toJson)).settle = .ok items :=
    list_of_settle_same what fun item _ => item.of_json_to_json
  have outputs : listOf "body.outputs" Output.ofJson
      (Json.list (body.outputs.map Output.toJson)).settle =
        .ok (body.outputs.map Output.settle) :=
    list_of_settle "body.outputs" fun item _ => item.of_json_to_json
  have mint : optional FlatValue.ofJson (ofOption FlatValue.toJson body.mint).settle =
      .ok body.mint := by
    rw [optional_settle FlatValue.is_bare_to_json FlatValue.of_json_to_json, Option.map_id']
  have collateralReturn : optional Output.ofJson
      (ofOption Output.toJson body.collateralReturn).settle =
        .ok (body.collateralReturn.map Output.settle) :=
    optional_settle Output.is_bare_to_json Output.of_json_to_json
  have withdrawals : Decode.map "body.withdrawals" (fun _ => integer "body.withdrawals")
      (ofMap .int body.withdrawals).settle = .ok body.withdrawals := by
    rw [map_settle]
    exact map_of_map_same "body.withdrawals" fun entry _ => integer_int _ entry.2
  simp [ofJson, toJson, get_compact, get_cons, settle, inputs, outputs, mint, collateralReturn,
    withdrawals, texts_settle, optional_integer_settle, ValidityInterval.of_json_to_json]

end Body

namespace Witness

def settle (witness : Witness) : Witness :=
  { witness with
    redeemers := witness.redeemers.settle
    scripts := witness.scripts.settle }

theorem of_json_to_json {witness : Witness} (readable : witness.datums.Readable) :
    ofJson witness.toJson = .ok witness.settle := by
  have bootstrap : listOf "witness.bootstrap" (object "witness.bootstrap")
      (Json.list (witness.bootstrap.map .object)).settle = .ok witness.bootstrap :=
    list_of_settle_same "witness.bootstrap" fun fields _ => object_object _ fields
  have signatures : Decode.map "witness.signatures" (fun _ => text "witness.signatures")
      (ofMap .text witness.signatures).settle = .ok witness.signatures := by
    rw [map_settle]
    exact map_of_map_same "witness.signatures" fun entry _ => text_text _ entry.2
  simp [ofJson, toJson, get_compact, get_cons, settle, bootstrap, signatures,
    Datums.of_json_to_json readable]

end Witness

namespace Transaction

def settle (transaction : Transaction) : Transaction :=
  { transaction with
    body := transaction.body.settle
    witness := transaction.witness.settle
    metadata := transaction.metadata.settle }

theorem of_json_to_json {transaction : Transaction}
    (readable : transaction.witness.datums.Readable) :
    ofJson transaction.toJson = .ok transaction.settle := by
  simp [ofJson, toJson, get_compact, get_cons, settle, Body.of_json_to_json,
    Witness.of_json_to_json readable]

end Transaction

end Legacy

end NodeBridge
