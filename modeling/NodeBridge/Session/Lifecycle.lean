import NodeBridge.Session.Connection

/-!
The life of a session. It dials, learns from the store where to go on if the conversation
cares, and holds one connection at a time. If the store cannot be read, or the opening for
what it holds cannot be written, the line is closed before anything is said. When the
connection ends over a temporary failure, a session that reconnects waits for a while and
dials again; otherwise it is over. A session that is asked to stop while it waits is over as
well. Without any delay there is no such wait, and the session dials again in any case.
-/

namespace NodeBridge.Session

structure Options where
  reconnect : Bool
  /-- How long to wait before dialing again, in milliseconds. -/
  delay : Nat
  /-- Whether the stored points are loaded before the conversation begins. One that opens
  without points needs none. -/
  loads : Bool

inductive Phase (Memory : Type) where
  | dialing
  | loading
  /-- The points could not be loaded or not be written, and the line is being closed. -/
  | abandoning (failure : Failure)
  | connected (connection : Connection.State Memory)
  | pausing
  | ended (failure : Option Failure)

structure State (Memory : Type) where
  phase : Phase Memory
  stopping : Bool

inductive Event where
  | dialed (outcome : Except Failure Unit)
  | loaded (outcome : Except Failure (List Point))
  | abandoned (outcome : Except Failure Unit)
  | connection (event : Connection.Event)
  | stopRequested
  | pauseElapsed

inductive Effect (Delivery : Type) where
  | dial
  | load
  | log (message : String)
  | connection (effect : Connection.Effect Delivery)

section

variable {Memory Delivery : Type}

/-- What is logged before a session dials again. -/
def retryMessage (delay : Nat) (failure : Failure) : String :=
  s!"websocket connection error: will retry delay={delay}ms err={failure.message}"

/-- What follows the end of a connection, or of the attempt at one. -/
def conclude (options : Options) (state : State Memory) :
    Option Failure → State Memory × List (Effect Delivery)
  | none => ({ state with phase := .ended none }, [])
  | some failure =>
      if options.reconnect && failure.isTemporary then
        let note := Effect.log (retryMessage options.delay failure)
        if options.delay = 0 then ({ state with phase := .dialing }, [note, .dial])
        else if state.stopping then ({ state with phase := .ended none }, [note])
        else ({ state with phase := .pausing }, [note])
      else ({ state with phase := .ended (some failure) }, [])

def connect (conversation : Conversation Memory Delivery) (state : State Memory)
    (stored : List Point) : State Memory :=
  { state with phase := .connected (.start conversation stored) }

/-- Closes a line on which nothing was said. -/
def abandon (state : State Memory) (failure : Failure) :
    State Memory × List (Effect Delivery) :=
  ({ state with phase := .abandoning failure }, [.connection .close])

/-- Begins the conversation that goes on from the stored points, if it can be opened. -/
def begin (conversation : Conversation Memory Delivery) (state : State Memory)
    (stored : List Point) : State Memory × List (Effect Delivery) :=
  match conversation.obstacle? stored with
  | none => (connect conversation state stored, [])
  | some failure => abandon state failure

/-- Takes up a state of the connection, which may be its last. -/
def adopt (options : Options) (state : State Memory) (connection : Connection.State Memory)
    (effects : List (Connection.Effect Delivery)) : State Memory × List (Effect Delivery) :=
  let done := effects.map Effect.connection
  if connection.ended then
    let (next, more) := conclude options state connection.failure
    (next, done ++ more)
  else ({ state with phase := .connected connection }, done)

def permits (state : State Memory) : Connection.Event → Bool
  | .stopFollowed => state.stopping
  | _ => true

/-- The next state and what has to be done, if the event is possible. -/
def step (options : Options) (conversation : Conversation Memory Delivery)
    (state : State Memory) : Event → Option (State Memory × List (Effect Delivery))
  | .dialed outcome =>
      match state.phase, outcome with
      | .dialing, .ok _ =>
          if options.loads then some ({ state with phase := .loading }, [.load])
          else some (connect conversation state [], [])
      | .dialing, .error failure => some (conclude options state (some failure))
      | _, _ => none
  | .loaded outcome =>
      match state.phase, outcome with
      | .loading, .ok stored => some (begin conversation state stored)
      | .loading, .error failure => some (abandon state (Duty.retrievePoints.failed failure))
      | _, _ => none
  | .abandoned outcome =>
      match state.phase, outcome with
      | .abandoning failure, .ok _ => some (conclude options state (some failure))
      | .abandoning failure, .error later =>
          some (conclude options state (some (later.during failure)))
      | _, _ => none
  | .connection event =>
      match state.phase with
      | .connected connection =>
          if permits state event then
            (Connection.step conversation connection event).map fun next =>
              adopt options state next.1 next.2
          else none
      | _ => none
  | .stopRequested =>
      match state.phase with
      | .ended _ => none
      | .pausing => some ({ phase := .ended none, stopping := true }, [])
      | _ => some ({ state with stopping := true }, [])
  | .pauseElapsed =>
      match state.phase with
      | .pausing => some ({ state with phase := .dialing }, [.dial])
      | _ => none

/-- A session that has not done anything but ask for a line. -/
def State.initial : State Memory := { phase := .dialing, stopping := false }

def initialEffects : List (Effect Delivery) := [.dial]

/-- The state after events in order, and what was done about each, if each is possible. -/
def run (options : Options) (conversation : Conversation Memory Delivery)
    (state : State Memory) :
    List Event → Option (State Memory × List (Event × List (Effect Delivery)))
  | [] => some (state, [])
  | event :: events => do
      let (next, effects) ← step options conversation state event
      let (last, history) ← run options conversation next events
      some (last, (event, effects) :: history)

def State.isEnded (state : State Memory) : Bool :=
  match state.phase with
  | .ended _ => true
  | _ => false

/-- The failure that ended the session, if one did. -/
def State.failure? (state : State Memory) : Option Failure :=
  match state.phase with
  | .ended failure => failure
  | _ => none

end

end NodeBridge.Session
