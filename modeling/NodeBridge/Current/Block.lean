import NodeBridge.Chain.Point
import NodeBridge.Current.Issuer
import NodeBridge.Current.Transaction

/-!
Blocks in the current schema, of any era but the first one.
-/

namespace NodeBridge.Current

structure Block where
  type : String
  era : String
  id : String
  ancestor : String
  nonce : Option VrfProof
  height : Int
  size : Int
  slot : Int
  transactions : List Transaction
  protocolVersion : ProtocolVersion
  issuer : Issuer
deriving DecidableEq

namespace Block

def ofJson (json : Json) : Decoded Block := do
  let fields ← Decode.object "block" json
  let field := Json.get fields
  let nonceFields ← Decode.optional (Decode.object "block.nonce") (field "nonce")
  let protocol ← Decode.object "block.protocol" (field "protocol")
  let type ← Decode.text "block.type" (field "type")
  let era ← Decode.text "block.era" (field "era")
  let id ← Decode.text "block.id" (field "id")
  let ancestor ← Decode.text "block.ancestor" (field "ancestor")
  let nonce ← match nonceFields with
    | some fields => (VrfProof.ofJson "nonce" (.object fields)).map some
    | none => .ok none
  let height ← Decode.integer "block.height" (field "height")
  let sizeFields ← Decode.object "block.size" (field "size")
  let size ← Decode.integer "block.size.bytes" (Json.get sizeFields "bytes")
  let slot ← Decode.integer "block.slot" (field "slot")
  let transactions ←
    Decode.listOf "block.transactions" Transaction.ofJson (field "transactions")
  let protocolVersion ← ProtocolVersion.ofJson (Json.get protocol "version")
  let issuer ← Issuer.ofJson (field "issuer")
  .ok ⟨type, era, id, ancestor, nonce, height, size, slot, transactions, protocolVersion, issuer⟩

def toJson (block : Block) : Json :=
  .object (Json.compact [] [
    ("type", .text block.type),
    ("era", .text block.era),
    ("id", .text block.id),
    ("ancestor", .text block.ancestor),
    ("nonce", Json.ofOption VrfProof.toJson block.nonce),
    ("height", .int block.height),
    ("size", .object (Json.compact [] [("bytes", .int block.size)])),
    ("slot", .int block.slot),
    ("transactions", .list (block.transactions.map Transaction.toJson)),
    ("protocol", .object [("version", block.protocolVersion.toJson)]),
    ("issuer", block.issuer.toJson)])

def point (block : Block) : BlockPoint := ⟨block.id, block.slot, some block.height⟩

end Block

end NodeBridge.Current
