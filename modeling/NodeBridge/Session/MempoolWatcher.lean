import NodeBridge.Adaptive.Document
import NodeBridge.Session.Conversation

/-!
Watching the mempool. The watcher acquires a snapshot, asks for its transactions one after
the other until there is none left, hands the snapshot over, and acquires the next one.
Only one request is under way at any time: each reply decides what is asked next.
-/

namespace NodeBridge.MempoolWatcher

structure Snapshot where
  transactions : List Current.Transaction
  slot : Int
deriving DecidableEq

/-- What a reply holds apart from what is of no concern here. -/
structure Reply where
  method : String
  result : Fields

inductive Complaint where
  | unreadable (error : DecodeError)
  /-- The node reports an error instead of a result. -/
  | reported (method : String) (error : Json)
  | unexpected (method : String)
  | transaction (error : DecodeError)

def Complaint.message : Complaint → String
  | .unreadable error => s!"couldn't parse response from ogmios: {error.message}"
  | .reported method error =>
      let asked := if method.isEmpty then "request" else method
      s!"ogmios returned an error for {asked}: {error.bareShown}"
  | .unexpected method =>
      s!"unexpected response from ogmios: method {Text.quoted method}"
  | .transaction error => s!"couldn't parse transaction from ogmios: {error.message}"

/-- The error that is behind a complaint. -/
def Complaint.cause? : Complaint → Option DecodeError
  | .unreadable error => some error
  | .reported _ _ => none
  | .unexpected _ => none
  | .transaction error => some error

def Complaint.failure (complaint : Complaint) : Failure :=
  match complaint.cause? with
  | some error => (Failure.of (.decode error)).causing (.protocol complaint.message)
  | none => .of (.protocol complaint.message)

/-- The method of a response; anything but a text counts as none. -/
def methodOf : Json → String
  | .text method => method
  | _ => ""

def readReply (frame : Bytes) : Except Complaint Reply := do
  let json ← (Decode.parseBytes frame).mapError .unreadable
  let fields ← (Decode.object "mempool response" json).mapError .unreadable
  let method := methodOf (Json.get fields "method")
  let error := Json.get fields "error"
  if error.isNull then
    let result ← (Decode.object "mempool result" (Json.get fields "result")).mapError .unreadable
    .ok ⟨method, result⟩
  else .error (.reported method error)

def acquireMempool : String := "acquireMempool"

def nextTransaction : String := "nextTransaction"

/-- Deals with a reply. The memory is the snapshot as far as it is known. -/
def answer (memory : Snapshot) (reply : Reply) : Reaction Snapshot Snapshot :=
  if reply.method = acquireMempool then
    match Decode.integer "acquireMempool.slot" (Json.get reply.result "slot") with
    | .ok slot => .proceed { memory with slot := slot } [.nextTransaction]
    | .error error => .refuse (.of (.decode error))
  else if reply.method = nextTransaction then
    let json := Json.get reply.result "transaction"
    if json.isNull then
      .deliver memory none { memory with transactions := [] } [.acquireMempool]
    else
      match Adaptive.mempoolTransaction json with
      | .ok transaction =>
          .proceed { memory with transactions := memory.transactions ++ [transaction] }
            [.nextTransaction]
      | .error error => .refuse (Complaint.transaction error).failure
  else .refuse (Complaint.unexpected reply.method).failure

def react (memory : Snapshot) (frame : Bytes) : Reaction Snapshot Snapshot :=
  match readReply frame with
  | .ok reply => answer memory reply
  | .error complaint => .refuse complaint.failure

def conversation : Conversation Snapshot Snapshot where
  name := "mempool monitoring"
  opening := fun _ => none
  queued := []
  capacity := none
  greeting := [.acquireMempool]
  refill := []
  memory := { transactions := [], slot := 0 }
  count := id
  react := react
  parting := fun _ => none
  delivering := .mempoolCallback

end NodeBridge.MempoolWatcher
