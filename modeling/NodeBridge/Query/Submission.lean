import NodeBridge.Query.Post
import NodeBridge.Query.Reply

/-!
Submitting transactions. In the current schema a rejected transaction is an answer like any
other; in the legacy schema it is a failure.
-/

namespace NodeBridge

inductive Submission where
  | accepted (id : String)
  | refused (code : Int) (message : String) (data : Json)
deriving DecidableEq

namespace Submission

def payload (transaction : String) : Json :=
  Post.body "submitTransaction"
    (some (.object [("transaction", .object [("cbor", .text transaction)])]))
    (some (.object []))

def legacyPayload (transaction : String) : Json :=
  Post.legacyBody "SubmitTx" (.object [("submit", .text transaction)])

/-- Reads an envelope. An error that is an object goes before a result. -/
def read (envelope : Fields) : Decoded Submission :=
  match Json.get envelope "error", Json.get envelope "result" with
  | .object error, _ => do
      let code ← Decode.integer "error.code" (Json.get error "code")
      let message ← Decode.text "error.message" (Json.get error "message")
      .ok (.refused code message (Json.get error "data"))
  | _, .object result => do
      let transaction ← Decode.object "result.transaction" (Json.get result "transaction")
      let id ← Decode.text "result.transaction.id" (Json.get transaction "id")
      .ok (.accepted id)
  | _, _ => .error (.submissionReply (.object envelope))

/-- Reads an envelope of the legacy schema: nothing but a list or object of complaints is a
rejection. -/
def readLegacy (envelope : Fields) : Except QueryFailure Unit :=
  match Json.get envelope "result" with
  | .object result =>
      match result.lookup "SubmitFail" with
      | none => .ok ()
      | some (.list []) => .ok ()
      | some (.list complaints) => .error (.rejected ⟨complaints⟩)
      | some (.object fields) => .error (.rejected ⟨[.object fields]⟩)
      | some other => .error (.decode (.submissionFailure other))
  | _ => .ok ()

def answer (reply : Reply) : Except QueryFailure Submission := do
  let envelope ← reply.envelope
  (read envelope).mapError .decode

def answerLegacy (reply : Reply) : Except QueryFailure Unit := do
  let envelope ← reply.envelope
  readLegacy envelope

end Submission

end NodeBridge
