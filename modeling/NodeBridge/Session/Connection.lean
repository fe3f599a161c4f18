import NodeBridge.Session.Conversation

/-!
One connection of a session. Four duties share it: a supervisor that logs, a closer, a
writer that sends the requests of the queue, and a reader that deals with the frames. They
stop together: whatever stops the connection wakes the closer, which closes the line. The
first failure counts. The duties take their steps in any order; a step is an event that is
possible in the state, and it says what has to be done in the world outside.
-/

namespace NodeBridge.Connection

inductive Supervisor where
  | starting
  | watching
  | ended
deriving DecidableEq, Repr

inductive Closer where
  | waiting
  | closing
  | ended
deriving DecidableEq, Repr

inductive Writer where
  | starting (opening : Option Request)
  | waiting
  /-- A request was taken from the queue and is not yet handed to the line. -/
  | holding (request : Request)
  | sending (request : Request)
  | ended
deriving DecidableEq

inductive Reader (Memory : Type) where
  | starting
  | receiving
  | ponging
  | calling (save : Option Point) (memory : Memory) (requests : List Request)
  | saving (memory : Memory) (requests : List Request)
  /-- The last point is being saved, perhaps while a failure is dealt with. -/
  | parting (context : Option Failure)
  | ended

structure State (Memory : Type) where
  stopped : Bool
  failure : Option Failure
  supervisor : Supervisor
  closer : Closer
  writer : Writer
  reader : Reader Memory
  queue : List Request
  memory : Memory

inductive Event where
  | supervisorStarts
  | supervisorStops
  | stopFollowed
  | closerWakes
  | closed (outcome : Except Failure Unit)
  | writerStarts
  | writerTakes
  | writerResumes
  | writerQuits
  | sent (outcome : Except Failure Unit)
  | readerStarts
  | received (outcome : Except Failure Frame)
  | ponged (outcome : Except Failure Unit)
  | called (outcome : Except Failure Unit)
  | saved (outcome : Except Failure Unit)

inductive Effect (Delivery : Type) where
  | log (message : String)
  | send (request : Request)
  | pong (content : Bytes)
  | call (delivery : Delivery)
  | save (point : Point)
  | close

section

variable {Memory Delivery : Type}

namespace State

/-- A connection whose duties have not begun. -/
def start (conversation : Conversation Memory Delivery) (stored : List Point) :
    State Memory :=
  { stopped := false, failure := none, supervisor := .starting, closer := .waiting,
    writer := .starting (conversation.opening stored), reader := .starting,
    queue := conversation.queued, memory := conversation.memory }

/-- Whether the closer has begun to close the line, so that errors are to be expected. -/
def isClosing (state : State Memory) : Bool := state.closer ≠ .waiting

def readerEnded (state : State Memory) : Bool :=
  match state.reader with
  | .ended => true
  | _ => false

def ended (state : State Memory) : Bool :=
  state.supervisor = .ended && state.closer = .ended && state.writer = .ended &&
    state.readerEnded

/-- Stops the connection over a failure, which counts if it is the first. -/
def fail (state : State Memory) (failure : Failure) : State Memory :=
  { state with stopped := true, failure := state.failure <|> some failure }

def endReader (state : State Memory) : State Memory :=
  { state with reader := .ended, stopped := true }

def failReader (state : State Memory) (failure : Failure) : State Memory :=
  (state.fail failure).endReader

def put (conversation : Conversation Memory Delivery) (state : State Memory)
    (requests : List Request) : State Memory :=
  { state with queue := Conversation.enqueue conversation.capacity state.queue requests }

def listen (conversation : Conversation Memory Delivery) (state : State Memory)
    (memory : Memory) (requests : List Request) : State Memory :=
  { state.put conversation requests with reader := .receiving, memory := memory }

end State

/-- The end of the reader, after the last point is saved if there is one. -/
def part (conversation : Conversation Memory Delivery) (state : State Memory)
    (context : Option Failure) : State Memory × List (Effect Delivery) :=
  match conversation.parting state.memory with
  | some point => ({ state with reader := .parting context }, [.save point])
  | none => (state.endReader, [])

/-- Deals with a frame that arrived while the connection was not stopped. -/
def handle (conversation : Conversation Memory Delivery) (state : State Memory) :
    Frame → State Memory × List (Effect Delivery)
  | .binary _ => (state, [.log "skipping unexpected binary message"])
  | .close => part conversation state none
  | .ping content => ({ state with reader := .ponging }, [.pong content])
  | .pong _ => (state, [])
  | .text content =>
      match conversation.react state.memory content with
      | .proceed memory requests => (state.listen conversation memory requests, [])
      | .deliver delivery save memory requests =>
          ({ state with reader := .calling save memory requests }, [.call delivery])
      | .refuse failure => (state.failReader failure, [])

def receive (conversation : Conversation Memory Delivery) (state : State Memory) :
    Except Failure Frame → State Memory × List (Effect Delivery)
  | .error failure =>
      if state.isClosing then part conversation state (some failure)
      else (state.failReader (Duty.read.failed failure), [])
  | .ok frame =>
      let noted := { state with memory := conversation.count state.memory }
      if state.stopped then part conversation noted none
      else handle conversation (noted.put conversation conversation.refill) frame

/-- The next state and what has to be done, if the event is possible. -/
def step (conversation : Conversation Memory Delivery) (state : State Memory) :
    Event → Option (State Memory × List (Effect Delivery))
  | .supervisorStarts =>
      if state.supervisor = .starting then
        some ({ state with supervisor := .watching },
          [.log s!"ogsync {conversation.name} started"])
      else none
  | .supervisorStops =>
      if state.supervisor = .watching ∧ state.stopped then
        some ({ state with supervisor := .ended },
          [.log s!"ogsync {conversation.name} stopped"])
      else none
  | .stopFollowed => if state.stopped then none else some ({ state with stopped := true }, [])
  | .closerWakes =>
      if state.closer = .waiting ∧ state.stopped then
        some ({ state with closer := .closing }, [.close])
      else none
  | .closed outcome =>
      if state.closer = .closing then
        let done := { state with closer := .ended }
        match outcome with
        | .ok _ => some (done, [])
        | .error failure => some (done.fail failure, [])
      else none
  | .writerStarts =>
      match state.writer with
      | .starting (some request) =>
          some ({ state with writer := .sending request }, [.send request])
      | .starting none => some ({ state with writer := .waiting }, [])
      | _ => none
  | .writerTakes =>
      match state.writer, state.queue with
      | .waiting, request :: queue =>
          some ({ state with writer := .holding request, queue := queue }, [])
      | _, _ => none
  | .writerResumes =>
      match state.writer with
      | .holding request =>
          if state.stopped then some ({ state with writer := .ended }, [])
          else some ({ state with writer := .sending request }, [.send request])
      | _ => none
  | .writerQuits =>
      if state.writer = .waiting ∧ state.stopped then
        some ({ state with writer := .ended }, [])
      else none
  | .sent outcome =>
      match state.writer, outcome with
      | .sending _, .ok _ => some ({ state with writer := .waiting }, [])
      | .sending request, .error failure =>
          let halted := { state with writer := .ended }
          if state.isClosing then some (halted, [])
          else some (halted.fail (request.duty.failed failure), [])
      | _, _ => none
  | .readerStarts =>
      match state.reader with
      | .starting => some (state.listen conversation state.memory conversation.greeting, [])
      | _ => none
  | .received outcome =>
      match state.reader with
      | .receiving => some (receive conversation state outcome)
      | _ => none
  | .ponged outcome =>
      match state.reader, outcome with
      | .ponging, .ok _ => some ({ state with reader := .receiving }, [])
      | .ponging, .error failure => some (state.failReader (Duty.pong.failed failure), [])
      | _, _ => none
  | .called outcome =>
      match state.reader, outcome with
      | .calling (some point) memory requests, .ok _ =>
          some ({ state with reader := .saving memory requests }, [.save point])
      | .calling none memory requests, .ok _ =>
          some (state.listen conversation memory requests, [])
      | .calling _ _ _, .error failure =>
          some (state.failReader (conversation.delivering.failed failure), [])
      | _, _ => none
  | .saved outcome =>
      match state.reader, outcome with
      | .saving memory requests, .ok _ => some (state.listen conversation memory requests, [])
      | .saving _ _, .error failure => some (state.failReader (Duty.save.failed failure), [])
      | .parting _, .ok _ => some (state.endReader, [])
      | .parting context, .error failure =>
          let whole := (context.map failure.during).getD failure
          some (state.failReader (Duty.save.failed whole), [])
      | _, _ => none

/-- The state after events in order, and what was done about each, if each is possible. -/
def run (conversation : Conversation Memory Delivery) (state : State Memory) :
    List Event → Option (State Memory × List (Event × List (Effect Delivery)))
  | [] => some (state, [])
  | event :: events => do
      let (next, effects) ← step conversation state event
      let (last, history) ← run conversation next events
      some (last, (event, effects) :: history)

end

end NodeBridge.Connection
