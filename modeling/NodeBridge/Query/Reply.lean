import NodeBridge.Decode.Field
import NodeBridge.Query.Failure
import NodeBridge.Text.Integer

/-!
Replies to queries. A reply is an envelope with a result, unless it holds an error, or a
fault in the manner of the legacy schema.
-/

namespace NodeBridge

/-- What comes back for one query. -/
structure Reply where
  status : Int
  body : String

namespace Reply

def isFailure (status : Int) : Bool := 400 ≤ status && status < 600

def envelope (reply : Reply) : Except QueryFailure Fields :=
  if isFailure reply.status then .error (.status reply.status)
  else
    match Json.readDocument reply.body.toList with
    | none => .error (.decode .replyNotJson)
    | some (.object fields) => .ok fields
    | some other => .error (.decode (.replyNotObject other.kind))

/-- A number out of the code of an error. Codes that say nothing count as zero. -/
def codeOf (code : Json) : Except QueryFailure Int :=
  if !code.isTruthy then .ok 0
  else
    let value? := match code with
      | .bool _ => some 1
      | .int value => some value
      | .float value => value.truncate?
      | .text value => Text.readInteger value.toList
      | _ => none
    match value? with
    | some value => .ok value
    | none => .error (.codeNotNumber code)

def words (fields : Fields) (name : String) : String :=
  match fields.lookup name with
  | some value => value.bareShown
  | none => "query failed"

def refusal : Json → QueryFailure
  | .object error =>
      match codeOf (Json.get error "code") with
      | .ok code => .refused (words error "message") code (Json.get error "data")
      | .error failure => failure
  | other => .refused other.bareShown 0 .null

/-- What a fault of the legacy schema amounts to. A fault that says nothing counts as an
empty object. -/
def faultRefusal (fault : Json) : QueryFailure :=
  if !fault.isTruthy then .refused "query failed" 0 (.object [])
  else
    match fault with
    | .object fields => .refused (words fields "string") 0 (.object fields)
    | other => .faultNotObject other

def resultOf (fields : Fields) : Except QueryFailure Json :=
  let error := Json.get fields "error"
  if !error.isNull then .error (refusal error)
  else if Json.get fields "type" = .text "jsonwsp/fault" then
    .error (faultRefusal (Json.get fields "fault"))
  else .ok (Json.get fields "result")

end Reply

end NodeBridge
