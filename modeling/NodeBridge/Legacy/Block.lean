import NodeBridge.Current.Response
import NodeBridge.Legacy.Point
import NodeBridge.Legacy.Transaction

/-!
Blocks in the legacy schema and their conversion both ways. A block stands under the name
of its era. Blocks of the first era are passed on as documents and never converted; to ask
for that is one of the ways in which a conversion can fail.
-/

namespace NodeBridge

/-- Why a document could not be converted from one schema to the other. -/
inductive ConversionError where
  | decode (error : DecodeError)
  | unsupportedEra (era : String)
  | misuse (cause : Misuse)
deriving DecidableEq

namespace ConversionError

def message : ConversionError → String
  | .decode error => error.message
  | .unsupportedEra era => s!"unsupported era: " ++ if era.isEmpty then "<none>" else era
  | .misuse cause => cause.message

end ConversionError

abbrev Converted (α : Type) := Except ConversionError α

def Decoded.converted {α : Type} (outcome : Decoded α) : Converted α :=
  outcome.mapError .decode

namespace Legacy

inductive Era where
  | shelley
  | allegra
  | mary
  | alonzo
  | babbage
deriving DecidableEq, Repr

namespace Era

def name : Era → String
  | .shelley => "shelley"
  | .allegra => "allegra"
  | .mary => "mary"
  | .alonzo => "alonzo"
  | .babbage => "babbage"

/-- All eras, the oldest first. -/
def all : List Era := [.shelley, .allegra, .mary, .alonzo, .babbage]

def ofName? (name : String) : Option Era := all.find? fun era => era.name = name

end Era

/-- The name of the first era. -/
def byron : String := "byron"

structure Header where
  blockHash : String
  blockHeight : Int
  blockSize : Int
  issuerVk : String
  issuerVrf : String
  leaderValue : OrderedMap String String
  nonce : OrderedMap String String
  opCert : Fields
  prevHash : String
  protocolVersion : OrderedMap String Int
  signature : String
  slot : Int
deriving DecidableEq

namespace Header

def ofJson (json : Json) : Decoded Header := do
  let fields ← Decode.object "header" json
  let field := Json.get fields
  let blockHash ← Decode.text "header.blockHash" (field "blockHash")
  let blockHeight ← Decode.integer "header.blockHeight" (field "blockHeight")
  let blockSize ← Decode.integer "header.blockSize" (field "blockSize")
  let issuerVk ← Decode.text "header.issuerVK" (field "issuerVK")
  let issuerVrf ← Decode.text "header.issuerVrf" (field "issuerVrf")
  let leaderValue ← Decode.map "header.leaderValue"
    (fun _ => Decode.text "header.leaderValue") (field "leaderValue")
  let nonce ← Decode.map "header.nonce" (fun _ => Decode.text "header.nonce") (field "nonce")
  let opCert ← Decode.object "header.opCert" (field "opCert")
  let prevHash ← Decode.text "header.prevHash" (field "prevHash")
  let protocolVersion ← Decode.map "header.protocolVersion"
    (fun _ => Decode.integer "header.protocolVersion") (field "protocolVersion")
  let signature ← Decode.text "header.signature" (field "signature")
  let slot ← Decode.integer "header.slot" (field "slot")
  .ok ⟨blockHash, blockHeight, blockSize, issuerVk, issuerVrf, leaderValue, nonce, opCert,
    prevHash, protocolVersion, signature, slot⟩

def toJson (header : Header) : Json :=
  .object (Json.compact [] [
    ("blockHash", .text header.blockHash),
    ("blockHeight", .int header.blockHeight),
    ("blockSize", .int header.blockSize),
    ("issuerVK", .text header.issuerVk),
    ("issuerVrf", .text header.issuerVrf),
    ("leaderValue", Json.ofMap .text header.leaderValue),
    ("nonce", Json.ofMap .text header.nonce),
    ("opCert", .object header.opCert),
    ("prevHash", .text header.prevHash),
    ("protocolVersion", Json.ofMap .int header.protocolVersion),
    ("signature", .text header.signature),
    ("slot", .int header.slot)])

/-- The nonce, if any part of it is there. -/
def currentNonce (header : Header) : Option Current.VrfProof :=
  let output := (header.nonce.find? "output").getD ""
  let proof := (header.nonce.find? "proof").getD ""
  if output.isEmpty ∧ proof.isEmpty then none else some ⟨output, proof⟩

/-- The operational certificate; a header without one has an empty one. -/
def currentCertificate (header : Header) : Decoded Current.OperationalCertificate :=
  if header.opCert.isEmpty then .ok Current.OperationalCertificate.empty
  else do
    let count ← Decode.integer "opCert.count" (Json.get header.opCert "count")
    let period ← Decode.integer "opCert.kesPeriod" (Json.get header.opCert "kesPeriod")
    let key ← Decode.text "opCert.hotVk" (Json.get header.opCert "hotVk")
    .ok ⟨count, period, Text.base64ToHex key⟩

/-- The leader value, if both parts of it are there. -/
def currentLeaderValue (header : Header) : Option Current.VrfProof :=
  match header.leaderValue.find? "output", header.leaderValue.find? "proof" with
  | some output, some proof => some ⟨Text.base64ToHex output, Text.base64ToHex proof⟩
  | _, _ => none

def currentVersion (header : Header) : Current.ProtocolVersion :=
  ⟨(header.protocolVersion.find? "major").getD 0, (header.protocolVersion.find? "minor").getD 0,
    (header.protocolVersion.find? "patch").getD 0⟩

def proofEntries (proof : Current.VrfProof) : OrderedMap String String :=
  OrderedMap.ofList [("output", proof.output), ("proof", proof.proof)]

def ofCurrent (block : Current.Block) : Header where
  blockHash := block.id
  blockHeight := block.height
  blockSize := block.size
  issuerVk := block.issuer.verificationKey
  issuerVrf := Text.hexToBase64 block.issuer.vrfVerificationKey
  leaderValue := match block.issuer.leaderValue with
    | some value => proofEntries ⟨Text.hexToBase64 value.output, Text.hexToBase64 value.proof⟩
    | none => OrderedMap.empty
  nonce := match block.nonce with
    | some nonce => proofEntries nonce
    | none => OrderedMap.empty
  opCert := [
    ("hotVk",
      .text (Text.hexToBase64 block.issuer.operationalCertificate.kesVerificationKey)),
    ("count", .int block.issuer.operationalCertificate.count),
    ("kesPeriod", .int block.issuer.operationalCertificate.kesPeriod)]
  prevHash := block.ancestor
  protocolVersion := OrderedMap.ofList [("major", block.protocolVersion.major),
    ("minor", block.protocolVersion.minor), ("patch", block.protocolVersion.patch)]
  signature := ""
  slot := block.slot

end Header

structure Block where
  body : List Transaction
  header : Header
  headerHash : String
deriving DecidableEq

namespace Block

def ofJson (json : Json) : Decoded Block := do
  let fields ← Decode.object "block" json
  let body ← Decode.listOf "block.body" Transaction.ofJson (Json.get fields "body")
  let header ← Header.ofJson (Json.get fields "header")
  let headerHash ← Decode.text "block.headerHash" (Json.get fields "headerHash")
  .ok ⟨body, header, headerHash⟩

def toJson (block : Block) : Json :=
  .object (Json.compact [] [("body", .list (block.body.map Transaction.toJson)),
    ("header", block.header.toJson), ("headerHash", .text block.headerHash)])

def point (block : Block) : BlockPoint :=
  ⟨block.header.blockHeight, block.headerHash, block.header.slot⟩

/-- Converts transactions in order, up to the first failure. -/
def currentTransactions : List Transaction → Decoded (List Current.Transaction)
  | [] => .ok []
  | transaction :: rest => do
      let current ← transaction.toCurrent
      let currents ← currentTransactions rest
      .ok (current :: currents)

def toCurrent (era : Era) (block : Block) : Decoded Current.Block := do
  let header := block.header
  let certificate ← header.currentCertificate
  let transactions ← currentTransactions block.body
  .ok {
    type := "praos"
    era := era.name
    id := block.headerHash
    ancestor := header.prevHash
    nonce := header.currentNonce
    height := header.blockHeight
    size := header.blockSize
    slot := header.slot
    transactions := transactions
    protocolVersion := header.currentVersion
    issuer := {
      verificationKey := header.issuerVk
      vrfVerificationKey := Text.base64ToHex header.issuerVrf
      operationalCertificate := certificate
      leaderValue := header.currentLeaderValue } }

def ofCurrent (block : Current.Block) : Block where
  body := block.transactions.map Transaction.ofCurrent
  header := Header.ofCurrent block
  headerHash := block.id

end Block

inductive EraBlock where
  | absent
  | byron (raw : Json)
  | ofEra (era : Era) (block : Block)
deriving DecidableEq

namespace EraBlock

/-- The first of some eras under whose name there is anything. -/
def firstEra? (fields : Fields) : List Era → Option Era
  | [] => none
  | era :: eras => if (Json.get fields era.name).isNull then firstEra? fields eras else some era

def ofJson (json : Json) : Decoded EraBlock := do
  let fields ← Decode.object "block" json
  match firstEra? fields Era.all with
  | some era => (Block.ofJson (Json.get fields era.name)).map (.ofEra era)
  | none =>
      let raw := Json.get fields Legacy.byron
      .ok (if raw.isNull then .absent else .byron raw)

def toJson : EraBlock → Json
  | .absent => .object []
  | .byron raw => .object [(Legacy.byron, raw)]
  | .ofEra era block => .object [(era.name, block.toJson)]

def toCurrent : EraBlock → Converted Current.Block
  | .absent => .error (.unsupportedEra Legacy.byron)
  | .byron _ => .error (.unsupportedEra Legacy.byron)
  | .ofEra era block => (block.toCurrent era).converted

def ofCurrent (block : Current.Block) : Converted EraBlock :=
  match Era.ofName? block.era with
  | some era => .ok (.ofEra era (Block.ofCurrent block))
  | none => .error (.unsupportedEra block.era)

end EraBlock

end Legacy

end NodeBridge
