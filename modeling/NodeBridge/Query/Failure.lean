import NodeBridge.Decode.Error

/-!
Why a query gives no answer.
-/

namespace NodeBridge

/-- A transaction that the node did not take, with its complaints. -/
structure Rejection where
  complaints : List Json
deriving DecidableEq

namespace Rejection

def names : Json → List String
  | .text name => [name]
  | .object fields => fields.map Prod.fst
  | _ => []

/-- The names of all complaints, in order and each once. -/
def codes (rejection : Rejection) : List String :=
  let all := rejection.complaints.flatMap names
  (all.mergeSort fun left right => !decide (right < left)).eraseReps

def hasCode (rejection : Rejection) (code : String) : Bool := rejection.codes.contains code

def message (rejection : Rejection) : String :=
  "SubmitTx failed: " ++ ", ".intercalate rejection.codes

end Rejection

inductive QueryFailure where
  | status (status : Int)
  | decode (error : DecodeError)
  | refused (message : String) (code : Int) (data : Json)
  /-- The node refuses to answer, and the code of its error is no number. -/
  | codeNotNumber (found : Json)
  /-- The node reports a fault that is not an object. -/
  | faultNotObject (found : Json)
  | rewardAddress (address : String)
  | rejected (rejection : Rejection)
deriving DecidableEq

def QueryFailure.message? : QueryFailure → Option String
  | .status _ => none
  | .decode error => some error.message
  | .refused message code _ =>
      if code = 0 then some message else some s!"{message} (code={Text.integerText code})"
  | .codeNotNumber _ => none
  | .faultNotObject _ => none
  | .rewardAddress address => some s!"failed to decode reward address: {address}"
  | .rejected rejection => some rejection.message

end NodeBridge
