import NodeBridge.Ledger.Value

/-!
Unspent outputs, as a query for them reports.
-/

namespace NodeBridge

structure Utxo where
  transaction : String
  index : Int
  address : String
  value : Value
  datumHash : String
  datum : String
  script : Json
deriving DecidableEq

namespace Utxo

def ofJson (json : Json) : Decoded Utxo := do
  let fields ← Decode.object "utxo" json
  let transaction ← Decode.object "utxo.transaction" (Json.get fields "transaction")
  let id ← Decode.text "utxo.transaction.id" (Json.get transaction "id")
  let index ← Decode.integer "utxo.index" (Json.get fields "index")
  let address ← Decode.text "utxo.address" (Json.get fields "address")
  let value ← Value.ofJson (Json.get fields "value")
  let datumHash ← Decode.text "utxo.datumHash" (Json.get fields "datumHash")
  let datum ← Decode.text "utxo.datum" (Json.get fields "datum")
  .ok ⟨id, index, address, value, datumHash, datum, Json.get fields "script"⟩

def toJson (utxo : Utxo) : Json :=
  .object ([("transaction", .object [("id", .text utxo.transaction)]),
      ("index", .int utxo.index), ("address", .text utxo.address),
      ("value", utxo.value.toJson)] ++
    Json.compact [] [("datumHash", .text utxo.datumHash), ("datum", .text utxo.datum),
      ("script", utxo.script)])

end Utxo

end NodeBridge
