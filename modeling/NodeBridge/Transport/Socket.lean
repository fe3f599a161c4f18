import NodeBridge.Session.Conversation

/-!
A websocket as a line of frames. The socket is told what to do through calls, and its
answers become frames or failures. Control frames never show: the socket answers them by
itself. A socket that was never opened is told nothing.
-/

namespace NodeBridge

structure Socket where
  address : String
  opened : Bool
deriving DecidableEq, Repr

namespace Socket

inductive Call where
  | connect (address : String)
  | send (content : String)
  | pong (content : Bytes)
  | close
deriving DecidableEq, Repr

inductive Yield where
  | text (content : String)
  | binary (content : Bytes)
  /-- The other side has closed the websocket in good order. -/
  | closed
deriving DecidableEq, Repr

/-- A socket that is not open yet. -/
def new (address : String) : Socket := ⟨address, false⟩

def isWebsocket : Fault → Bool
  | .dropped _ => true
  | .websocket => true
  | _ => false

def dialFailure (address : String) (failure : Failure) : Failure :=
  if failure.fault.isOfNetwork then
    failure.causing (.dial s!"failed to connect to ogmios, {address}: {failure.message}")
  else if isWebsocket failure.fault then
    failure.causing
      (.dial s!"ogmios rejected the websocket handshake, {address}: {failure.message}")
  else failure

def connect (socket : Socket) (outcome : Except Failure Unit) :
    Except Failure Socket × List Call :=
  let result := match outcome with
    | .ok _ => .ok { socket with opened := true }
    | .error failure => .error (dialFailure socket.address failure)
  (result, [.connect socket.address])

/-- A socket that has not been opened can neither send nor receive. -/
def notOpen (socket : Socket) : Failure := .of (.dial s!"connection to {socket.address} not open")

def send (socket : Socket) (content : String) : Except Failure Unit × List Call :=
  if socket.opened then (.ok (), [.send content]) else (.error socket.notOpen, [])

def pong (socket : Socket) (content : Bytes) : Except Failure Unit × List Call :=
  if socket.opened then (.ok (), [.pong content]) else (.error socket.notOpen, [])

def frameOf : Yield → Frame
  | .text content => .text (Text.encodeUtf8 content)
  | .binary content => .binary content
  | .closed => .close

def receive (socket : Socket) (yielded : Except Failure Yield) : Except Failure Frame :=
  if socket.opened then yielded.map frameOf else .error socket.notOpen

/-- Closes the socket, which may be done more than once. -/
def close (socket : Socket) : List Call := if socket.opened then [.close] else []

end Socket

end NodeBridge
