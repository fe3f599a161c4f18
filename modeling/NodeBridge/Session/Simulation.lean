import NodeBridge.Session.Lifecycle

/-!
Sessions in a scripted world. The script says which dials succeed, which sends, saves and
deliveries fail, and what happens when a line is closed. The world carries out what the
session asks for, and lets the duties run in a fixed order until each of them waits for a
frame from outside. What can be seen of the session is written down.
-/

namespace NodeBridge.Simulation

open Session (Event Effect)

/-- The script of one line. -/
structure LineScript where
  failingSend : Option Nat
  sendFailure : Failure
  hangingSend : Option Nat
  pongFailure : Option Failure
  farewell : Except Failure Frame
  closeFailure : Option Failure

structure StoreScript where
  points : List Point
  loadFailure : Option Failure
  failingSave : Option Nat
  /-- Whether a save takes its time, so that all else goes on before it is over. -/
  slow : Bool := false

structure Script (Delivery : Type) where
  dials : List (Except Failure LineScript)
  store : StoreScript
  /-- Whether a delivery is refused, given how many went before it. -/
  refusal : Nat → Delivery → Option Failure

structure Line where
  script : LineScript
  sends : Nat
  arriving : List (Except Failure Frame)
  closed : Bool
  released : Bool

/-- What was seen of a session. The requests stand beside the number of their line. -/
structure Record (Delivery : Type) where
  sent : List (Nat × Request)
  delivered : List Delivery
  saved : List Point
  pongs : List Bytes
  logs : List String

def Record.empty {Delivery : Type} : Record Delivery := ⟨[], [], [], [], []⟩

/-- The outcomes of what is under way. A send without an outcome hangs. -/
structure Outcomes where
  dial : Except Failure Unit
  load : Except Failure (List Point)
  send : Option (Except Failure Unit)
  pong : Except Failure Unit
  call : Except Failure Unit
  save : Except Failure Unit
  close : Except Failure Unit

structure World (Memory Delivery : Type) where
  session : Session.State Memory
  script : Script Delivery
  /-- The latest line first. -/
  lines : List Line
  dialCount : Nat
  callCount : Nat
  saveCount : Nat
  outcomes : Outcomes
  record : Record Delivery

section

variable {Memory Delivery : Type}

def reported (message : String) : Failure := .of (.reported message)

def outcome (failure : Option Failure) : Except Failure Unit :=
  match failure with
  | some failure => .error failure
  | none => .ok ()

namespace World

def noOutcomes : Outcomes :=
  { dial := .ok (), load := .ok [], send := none, pong := .ok (), call := .ok (),
    save := .ok (), close := .ok () }

def write (world : World Memory Delivery) (change : Record Delivery → Record Delivery) :
    World Memory Delivery :=
  { world with record := change world.record }

def log (world : World Memory Delivery) (message : String) : World Memory Delivery :=
  world.write fun record => { record with logs := record.logs ++ [message] }

def onLine (world : World Memory Delivery) (change : Line → Line) : World Memory Delivery :=
  match world.lines with
  | [] => world
  | line :: older => { world with lines := change line :: older }

def arrive (world : World Memory Delivery) (arriving : Except Failure Frame) :
    World Memory Delivery :=
  world.onLine fun line => { line with arriving := line.arriving ++ [arriving] }

def dial (world : World Memory Delivery) : World Memory Delivery :=
  let counted := { world with dialCount := world.dialCount + 1 }
  let settled (world : World Memory Delivery) (dials : List (Except Failure LineScript))
      (outcome : Except Failure Unit) : World Memory Delivery :=
    { world with
      script := { world.script with dials := dials }
      outcomes := { world.outcomes with dial := outcome } }
  match world.script.dials with
  | [] => settled counted [] (.error (.of (.dial "no more connections")))
  | .error failure :: dials => settled counted dials (.error failure)
  | .ok script :: dials =>
      let line : Line := ⟨script, 0, [], false, false⟩
      settled { counted with lines := line :: counted.lines } dials (.ok ())

def load (world : World Memory Delivery) : World Memory Delivery :=
  let store := world.script.store
  { world with
    outcomes := { world.outcomes with
      load := match store.loadFailure with
        | some failure => .error failure
        | none => .ok store.points } }

def sendOutcome (world : World Memory Delivery) (outcome : Option (Except Failure Unit)) :
    World Memory Delivery :=
  { world with outcomes := { world.outcomes with send := outcome } }

def sendOut (world : World Memory Delivery) (request : Request) : World Memory Delivery :=
  (world.write fun record =>
    { record with sent := record.sent ++ [(world.lines.length, request)] }).sendOutcome
      (some (.ok ()))

def send (world : World Memory Delivery) (request : Request) : World Memory Delivery :=
  match world.lines with
  | [] => world
  | line :: _ =>
      let number := line.sends + 1
      let counted := world.onLine fun line => { line with sends := number }
      if line.closed then counted.sendOutcome (some (.error (reported "connection closed")))
      else if line.script.failingSend = some number then
        counted.sendOutcome (some (.error line.script.sendFailure))
      else if line.script.hangingSend = some number ∧ ¬ line.released then
        counted.sendOutcome none
      else counted.sendOut request

def pong (world : World Memory Delivery) (content : Bytes) : World Memory Delivery :=
  let failure := world.lines.head?.bind fun line => line.script.pongFailure
  let answered := { world with outcomes := { world.outcomes with pong := outcome failure } }
  if failure.isSome then answered
  else answered.write fun record => { record with pongs := record.pongs ++ [content] }

def call (world : World Memory Delivery) (delivery : Delivery) : World Memory Delivery :=
  let failure := world.script.refusal world.callCount delivery
  let called := { world with
    callCount := world.callCount + 1
    outcomes := { world.outcomes with call := outcome failure } }
  if failure.isSome then called
  else called.write fun record => { record with delivered := record.delivered ++ [delivery] }

def save (world : World Memory Delivery) (point : Point) : World Memory Delivery :=
  let number := world.saveCount + 1
  let failure :=
    if world.script.store.failingSave = some number then some (reported "save failed")
    else none
  let done := { world with
    saveCount := number
    outcomes := { world.outcomes with save := outcome failure } }
  if failure.isSome then done
  else done.write fun record => { record with saved := record.saved ++ [point] }

/-- Closes the latest line. A send that hangs fails. -/
def close (world : World Memory Delivery) : World Memory Delivery :=
  match world.lines with
  | [] => world
  | line :: _ =>
      let closed := (world.arrive line.script.farewell).onLine fun line =>
        { line with closed := true }
      let send := world.outcomes.send <|> some (.error (reported "connection closed"))
      { closed with
        outcomes := { closed.outcomes with
          close := outcome line.script.closeFailure
          send := send } }

def carryOut (world : World Memory Delivery) : Effect Delivery → World Memory Delivery
  | .dial => world.dial
  | .load => world.load
  | .log message => world.log message
  | .connection effect =>
      match effect with
      | .log message => world.log message
      | .send request => world.send request
      | .pong content => world.pong content
      | .call delivery => world.call delivery
      | .save point => world.save point
      | .close => world.close

/-- The next event of the reader, if it is not waiting. -/
def readerEvent (world : World Memory Delivery) (reader : Connection.Reader Memory) :
    Option Connection.Event :=
  match reader with
  | .starting => some .readerStarts
  | .receiving =>
      (world.lines.head?.bind fun line => line.arriving.head?).map .received
  | .ponging => some (.ponged world.outcomes.pong)
  | .calling _ _ _ => some (.called world.outcomes.call)
  | .saving _ _ => some (.saved world.outcomes.save)
  | .parting _ => some (.saved world.outcomes.save)
  | .ended => none

def closerEvent (connection : Connection.State Memory) : Option Connection.Event :=
  if connection.closer = .waiting ∧ connection.stopped then some .closerWakes else none

def writerEvent (world : World Memory Delivery) (connection : Connection.State Memory) :
    Option Connection.Event :=
  match connection.writer with
  | .starting _ => some .writerStarts
  | .waiting =>
      if connection.stopped then some .writerQuits
      else if connection.queue.isEmpty then none
      else some .writerTakes
  | .holding _ => some .writerResumes
  | .sending _ => world.outcomes.send.map .sent
  | .ended => none

/-- Whether the reader waits for a store that takes its time. -/
def awaitsStore (world : World Memory Delivery) (reader : Connection.Reader Memory) : Bool :=
  match reader with
  | .saving _ _ | .parting _ => world.script.store.slow
  | _ => false

/-- The next event of a connection. Closing a line takes no time; else the reader goes
first, then the closer, then the writer. A slow store comes last. -/
def connectionEvent (world : World Memory Delivery) (connection : Connection.State Memory) :
    Option Connection.Event :=
  if connection.supervisor = .starting then some .supervisorStarts
  else if connection.closer = .closing then some (.closed world.outcomes.close)
  else
    let reading := world.readerEvent connection.reader
    let later := world.awaitsStore connection.reader
    (if later then none else reading) <|>
    (if world.session.stopping ∧ ¬ connection.stopped then some .stopFollowed else none) <|>
    closerEvent connection <|>
    world.writerEvent connection <|>
    (if connection.supervisor = .watching ∧ connection.stopped then some .supervisorStops
      else none) <|>
    (if later then reading else none)

/-- The next event of the session, if it is not waiting. -/
def nextEvent (world : World Memory Delivery) : Option Event :=
  match world.session.phase with
  | .dialing => some (.dialed world.outcomes.dial)
  | .loading => some (.loaded world.outcomes.load)
  | .abandoning _ => some (.abandoned world.outcomes.close)
  | .connected connection => (world.connectionEvent connection).map .connection
  | .pausing => none
  | .ended _ => none

def consume (world : World Memory Delivery) : Event → World Memory Delivery
  | .connection (.received _) =>
      world.onLine fun line => { line with arriving := line.arriving.tail }
  | _ => world

def advance (options : Session.Options) (conversation : Conversation Memory Delivery)
    (world : World Memory Delivery) (event : Event) : Option (World Memory Delivery) :=
  (Session.step options conversation world.session event).map fun next =>
    next.2.foldl carryOut { world.consume event with session := next.1 }

/-- More events than a connection takes before it waits. -/
def eventsPerConnection : Nat := 512

def settleWithin (options : Session.Options) (conversation : Conversation Memory Delivery) :
    Nat → World Memory Delivery → World Memory Delivery
  | 0, world => world
  | fuel + 1, world =>
      match world.nextEvent.bind (advance options conversation world) with
      | some next => settleWithin options conversation fuel next
      | none => world

def settle (options : Session.Options) (conversation : Conversation Memory Delivery)
    (world : World Memory Delivery) : World Memory Delivery :=
  settleWithin options conversation
    (eventsPerConnection * (world.script.dials.length + 2)) world

/-- The world before a session has begun. -/
def start (script : Script Delivery) : World Memory Delivery :=
  { session := .initial, script := script, lines := [], dialCount := 0, callCount := 0,
    saveCount := 0, outcomes := noOutcomes, record := .empty }

/-- The world once a new session waits for the first time. -/
def begin (options : Session.Options) (conversation : Conversation Memory Delivery)
    (script : Script Delivery) : World Memory Delivery :=
  settle options conversation (Session.initialEffects.foldl carryOut (start script))

end World

inductive Occurrence where
  | arrival (arriving : Except Failure Frame)
  | stop
  | release
  | elapse

namespace World

def release (world : World Memory Delivery) : World Memory Delivery :=
  let released := world.onLine fun line => { line with released := true }
  match world.session.phase, world.outcomes.send with
  | .connected connection, none =>
      match connection.writer with
      | .sending request => released.sendOut request
      | _ => released
  | _, _ => released

/-- What happens from outside, before the session does anything about it. A session that
is over takes no notice. -/
def undergo (options : Session.Options) (conversation : Conversation Memory Delivery)
    (world : World Memory Delivery) (occurrence : Occurrence) : World Memory Delivery :=
  if world.session.isEnded then world
  else
    match occurrence with
    | .arrival arriving => world.arrive arriving
    | .stop => (advance options conversation world .stopRequested).getD world
    | .release => world.release
    | .elapse => (advance options conversation world .pauseElapsed).getD world

/-- What happens from outside and what the session does about it, on a new record. -/
def proceed (options : Session.Options) (conversation : Conversation Memory Delivery)
    (world : World Memory Delivery) (occurrence : Occurrence) : World Memory Delivery :=
  settle options conversation
    (undergo options conversation { world with record := .empty } occurrence)

end World

end

end NodeBridge.Simulation
