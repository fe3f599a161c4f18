import NodeBridge.Current.Transaction
import NodeBridge.Legacy.Point
import NodeBridge.Ledger.Utxo
import NodeBridge.Query.Era
import NodeBridge.Query.Post
import NodeBridge.Query.Reply
import NodeBridge.Query.RewardAccount

/-!
Questions about the state of the ledger and the network. A query is what is posted
together with the way its result is read.
-/

namespace NodeBridge

structure Query (α : Type) where
  payload : Json
  read : Json → Except QueryFailure α

namespace Query

def answer {α : Type} (query : Query α) (reply : Reply) : Except QueryFailure α := do
  let fields ← reply.envelope
  let result ← Reply.resultOf fields
  query.read result

def reading {α : Type} (payload : Json) (read : Json → Decoded α) : Query α :=
  ⟨payload, fun json => (read json).mapError .decode⟩

/-- The parameters of a query that has none. -/
def noParameters : Option Json := some (.object [])

def current (method : String) (parameters : Option Json) : Json := Post.body method parameters none

/-- A query of the legacy schema, by its name or with arguments under its name. -/
def legacy (query : Json) : Json := Post.legacyBody "Query" (.object [("query", query)])

/-- A list of things that are read one after the other. -/
def listOf {α : Type} (what : String) (read : Json → Decoded α) (json : Json) :
    Decoded (List α) := do
  let items ← Decode.list what json
  Decode.each read items

def chainTip : Query Point :=
  reading (current "queryLedgerState/tip" noParameters) Point.ofJson

def legacyChainTip : Query Legacy.Point :=
  reading (legacy (.text "ledgerTip")) Legacy.Point.ofJson

def currentEpoch : Query Int :=
  reading (current "queryLedgerState/epoch" noParameters) (Decode.integer "epoch")

def protocolParameters : Query Fields :=
  reading (current "queryLedgerState/protocolParameters" noParameters)
    (Decode.object "protocol parameters")

def legacyProtocolParameters : Query Fields :=
  reading (legacy (.text "currentProtocolParameters")) (Decode.object "protocol parameters")

def genesisConfiguration (era : String) : Query Fields :=
  reading
    (current "queryNetwork/genesisConfiguration" (some (.object [("era", .text era)])))
    (Decode.object "genesis configuration")

def legacyGenesisConfiguration (era : String) : Query Fields :=
  reading (legacy (.object [("genesisConfig", .text era)]))
    (Decode.object "genesis configuration")

def readStartTime : Json → Decoded String
  | .text time => .ok time
  | other => .error (.startTimeNotText other)

def startTime : Query String := reading (current "queryNetwork/startTime" none) readStartTime

def blockHeight : Query Int :=
  reading (current "queryNetwork/blockHeight" none) (Decode.integer "blockHeight")

def eraSummaries : Query (List EraSummary) :=
  reading (current "queryLedgerState/eraSummaries" noParameters)
    (listOf "eraSummaries" EraSummary.ofJson)

def eraStart : Query EraBound :=
  reading (current "queryLedgerState/eraStart" noParameters) EraBound.ofJson

def legacyEraStart : Query EraBound := reading (legacy (.text "eraStart")) EraBound.ofJson

def utxosByAddress (addresses : List String) : Query (List Utxo) :=
  reading
    (current "queryLedgerState/utxo" (some (.object [("addresses", Json.ofTexts addresses)])))
    (listOf "utxos" Utxo.ofJson)

def legacyUtxosByAddress (addresses : List String) : Query (List Json) :=
  reading (legacy (.object [("utxo", Json.ofTexts addresses)])) (Decode.list "utxos")

def utxosByInput (inputs : List Current.Input) : Query (List Utxo) :=
  reading
    (current "queryLedgerState/utxo"
      (some (.object [("outputReferences", .list (inputs.map Current.Input.toJson))])))
    (listOf "utxos" Utxo.ofJson)

/-- An input as the legacy schema asks for it. -/
def legacyInput (input : Current.Input) : Json :=
  .object [("txId", .text input.transaction), ("index", .int input.index)]

def legacyUtxosByInput (inputs : List Current.Input) : Query (List Json) :=
  reading (legacy (.object [("utxo", .list (inputs.map legacyInput))])) (Decode.list "utxos")

/-- The delegation of a reward address, if that is an address at all. -/
def delegation (address : String) : Except QueryFailure (Query Delegation) := do
  let hash ← RewardAccount.keyHash address
  .ok ⟨current "queryLedgerState/rewardAccountSummaries"
      (some (.object [("keys", Json.ofTexts [address])])),
    RewardAccount.readDelegation address hash⟩

end Query

end NodeBridge
