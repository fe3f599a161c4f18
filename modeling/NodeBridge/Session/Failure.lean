import NodeBridge.Decode.Error

/-!
Why a session fails. A failure may have come about through another one, so failures form
chains, the latest first. A session is worth taking up again after a failure when some
fault in its chain is passing: a connection that dropped without a word, a dial that the
network refused or that took too long, or a fault that calls itself temporary.
-/

namespace NodeBridge

inductive Fault where
  | reported (message : String)
  /-- A value that is not allowed. -/
  | invalid (message : String)
  | network (message : String)
  | timeout (message : String)
  /-- The websocket was closed in error, with the code of the close frame if one came. -/
  | dropped (code : Option Int)
  | websocket
  /-- A fault that tells whether it is temporary. -/
  | flagged (temporary : Bool) (message : String)
  | dial (message : String)
  | session (message : String)
  | protocol (message : String)
  | decode (error : DecodeError)
deriving DecidableEq

namespace Fault

/-- The words of a fault. An asterisk stands for the complaint of the websocket. -/
def message : Fault → String
  | .reported message => message
  | .invalid message => message
  | .network message => message
  | .timeout message => message
  | .dropped _ => "*"
  | .websocket => "*"
  | .flagged _ message => message
  | .dial message => message
  | .session message => message
  | .protocol message => message
  | .decode error => error.message

/-- The code of a connection that dropped without a close frame. -/
def abnormalClosure : Int := 1006

def isPassing : Fault → Bool
  | .dropped code => code.getD abnormalClosure = abnormalClosure
  | .flagged temporary _ => temporary
  | _ => false

def isDial : Fault → Bool
  | .dial _ => true
  | _ => false

def isOfNetwork : Fault → Bool
  | .network _ => true
  | .timeout _ => true
  | _ => false

end Fault

/-- How a fault is tied to the earlier one: it was caused by it, or it came up while that
one was being dealt with. -/
inductive FaultLink where
  | cause
  | context
deriving DecidableEq, Repr

/-- A fault with the earlier ones behind it. -/
structure Failure where
  fault : Fault
  trail : List (FaultLink × Fault)
deriving DecidableEq

namespace Failure

/-- A failure with nothing behind it. -/
def of (fault : Fault) : Failure := ⟨fault, []⟩

def message (failure : Failure) : String := failure.fault.message

def causing (cause : Failure) (fault : Fault) : Failure :=
  ⟨fault, (.cause, cause.fault) :: cause.trail⟩

/-- A failure that came up while an earlier one was being dealt with. -/
def during (failure earlier : Failure) : Failure :=
  ⟨failure.fault, failure.trail ++ (.context, earlier.fault) :: earlier.trail⟩

/-- Whether a chain of faults holds a passing one. A dial is passing when the network or
the time was its immediate cause. -/
def chainPasses (fault : Fault) : List (FaultLink × Fault) → Bool
  | [] => fault.isPassing
  | (link, earlier) :: trail =>
      fault.isPassing || (fault.isDial && link = .cause && earlier.isOfNetwork) ||
        chainPasses earlier trail

/-- Whether it is worth trying again after the failure. -/
def isTemporary (failure : Failure) : Bool := chainPasses failure.fault failure.trail

end Failure

inductive Duty where
  | retrievePoints
  | writeFindIntersection
  | writeNextBlock
  | writeAcquireMempool
  | writeNextTransaction
  | read
  | pong
  | followerCallback
  | mempoolCallback
  | save
deriving DecidableEq, Repr

def Duty.words : Duty → String
  | .retrievePoints => "failed to retrieve points from store"
  | .writeFindIntersection => "failed to write findIntersection"
  | .writeNextBlock => "failed to write nextBlock"
  | .writeAcquireMempool => "failed to write acquireMempool"
  | .writeNextTransaction => "failed to write nextTransaction"
  | .read => "failed to read message from ogmios"
  | .pong => "failed to respond with pong to ogmios"
  | .followerCallback => "chainsync stopped: callback failed"
  | .mempoolCallback => "mempool monitoring stopped: callback failed"
  | .save => "chainsync client failed"

def Duty.failed (duty : Duty) (cause : Failure) : Failure :=
  cause.causing (.session s!"{duty.words}: {cause.message}")

end NodeBridge
