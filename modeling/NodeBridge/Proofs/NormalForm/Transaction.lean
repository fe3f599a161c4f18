import NodeBridge.Proofs.Adaptive.Output
import NodeBridge.Proofs.Adaptive.Retelling
import NodeBridge.Proofs.NormalForm.Document

/-!
Transactions in their normal forms, in either schema. Of a printed transaction all comes back but
the parts that say nothing, and what comes back is printed as it was.
-/

namespace NodeBridge

open Json Decode

namespace Current

theorem Input.of_json_to_json (input : Input) : ofJson input.toJson = .ok input := by
  simp [ofJson, toJson, get_cons]

theorem ValidityInterval.of_json_to_json (interval : ValidityInterval) :
    ofJson interval.toJson = .ok interval := by
  simp [ofJson, toJson, get_compact, get_cons]

theorem Output.to_json_settle (output : Output) : output.settle.toJson = output.toJson := by
  apply congrArg Json.object
  apply compact_congr
  simp [heeded, settle]

namespace Transaction

/-- A transaction as it comes back after it was printed. -/
def settle (transaction : Transaction) : Transaction :=
  { transaction with
    totalCollateral := retained Value.toJson transaction.totalCollateral
    collateralReturn := (retained Output.toJson transaction.collateralReturn).map Output.settle
    outputs := transaction.outputs.map Output.settle
    network := transaction.network.settle
    proposals := transaction.proposals.settle
    votes := transaction.votes.settle
    metadata := transaction.metadata.settle
    scripts := transaction.scripts.settle
    redeemers := transaction.redeemers.settle }

theorem of_json_to_json {transaction : Transaction} (readable : transaction.datums.Readable) :
    ofJson transaction.toJson = .ok transaction.settle := by
  have inputs (what : String) (items : List Input) :
      listOf what Input.ofJson (Json.list (items.map Input.toJson)).settle = .ok items :=
    list_of_settle_same what fun item _ => item.of_json_to_json
  have outputs : listOf "tx.outputs" Output.ofJson
      (Json.list (transaction.outputs.map Output.toJson)).settle =
        .ok (transaction.outputs.map Output.settle) :=
    list_of_settle "tx.outputs" fun item _ => item.of_json_to_json
  have totalCollateral : optional Value.ofJson
      (ofOption Value.toJson transaction.totalCollateral).settle =
        .ok (retained Value.toJson transaction.totalCollateral) :=
    optional_retained_same Value.of_json_to_json
  have collateralReturn : optional Output.ofJson
      (ofOption Output.toJson transaction.collateralReturn).settle =
        .ok ((retained Output.toJson transaction.collateralReturn).map Output.settle) :=
    optional_retained fun output _ => output.of_json_to_json
  have withdrawals : Decode.map "tx.withdrawals" (fun _ => Value.ofJson)
      (ofMap Value.toJson transaction.withdrawals).settle = .ok transaction.withdrawals := by
    rw [map_settle]
    exact map_of_map_same "tx.withdrawals" fun entry _ => entry.2.of_json_to_json
  have signatories : listOf "tx.signatories" Signatory.ofJson
      (Json.list (transaction.signatories.map Signatory.toJson)).settle =
        .ok transaction.signatories :=
    list_of_settle_same "tx.signatories" fun signatory _ => signatory.of_json_to_json
  simp [ofJson, toJson, get_compact, get_cons, settle, inputs, outputs, totalCollateral,
    collateralReturn, withdrawals, signatories, texts_settle, Value.of_json_settle,
    ValidityInterval.of_json_to_json, Datums.of_json_to_json readable]

theorem to_json_settle (transaction : Transaction) :
    transaction.settle.toJson = transaction.toJson := by
  have outputs := map_map_of_same Output.to_json_settle transaction.outputs
  have collateralReturn := of_option_map Output.to_json_settle
    (retained Output.toJson transaction.collateralReturn)
  apply congrArg Json.object
  apply compact_congr
  simp [heeded, settle, outputs, collateralReturn, settle_of_option_retained]

theorem is_normalizing : IsNormalizing ofJson toJson := by
  intro json transaction reads
  exact settles_of_again (of_json_to_json (readable_of_json reads)) transaction.to_json_settle

end Transaction

end Current

namespace Legacy

theorem Output.to_json_settle (output : Output) : output.settle.toJson = output.toJson := by
  apply congrArg Json.object
  apply compact_congr
  simp [heeded, settle]

theorem Body.to_json_settle (body : Body) : body.settle.toJson = body.toJson := by
  have outputs := map_map_of_same Output.to_json_settle body.outputs
  have collateralReturn := of_option_map Output.to_json_settle body.collateralReturn
  have totalCollateral := settle_of_option_retained Json.int body.totalCollateral
  simp only [retained, isBare] at totalCollateral
  apply congrArg Json.object
  apply compact_congr
  simp [heeded, settle, outputs, collateralReturn, totalCollateral]

theorem Witness.to_json_settle (witness : Witness) : witness.settle.toJson = witness.toJson := by
  apply congrArg Json.object
  apply compact_congr
  simp [heeded, settle]

namespace Transaction

theorem to_json_settle (transaction : Transaction) :
    transaction.settle.toJson = transaction.toJson := by
  apply congrArg Json.object
  apply compact_congr
  simp [heeded, settle, Body.to_json_settle, Witness.to_json_settle]

theorem is_normalizing : IsNormalizing ofJson toJson := by
  intro json transaction reads
  exact settles_of_again (of_json_to_json (readable_of_json reads)) transaction.to_json_settle

end Transaction

end Legacy

end NodeBridge
