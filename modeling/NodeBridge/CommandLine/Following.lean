import NodeBridge.CommandLine.Listing
import NodeBridge.Session.ChainFollower
import NodeBridge.Session.Lifecycle

/-!
The commands that run a session until they have seen enough. A printer prints what the
session delivers and counts; once the count is reached the session is asked to stop. The
session goes on with what it has at hand until it takes notice.
-/

namespace NodeBridge

structure Printer where
  lines : List String
  seen : Nat
  enough : Bool
deriving DecidableEq, Repr

namespace Printer

def start : Printer := ⟨[], 0, false⟩

/-- Whether a count that is wanted is reached; zero is never reached. -/
def reached (wanted : Int) (seen : Nat) : Bool := wanted ≠ 0 && wanted ≤ seen

def printNote (wanted : Int) (printer : Printer) (note : Listing.Note) : Printer :=
  let seen := if note.isBlock then printer.seen + 1 else printer.seen
  { lines := printer.lines ++ note.line?.toList
    seen := seen
    enough := printer.enough || (note.isStep && reached wanted seen) }

/-- Takes a frame of a chain follower, unless it cannot be read. -/
def hear (wanted : Int) (printer : Printer) (frame : Bytes) : Printer × Except Failure Unit :=
  match Listing.note frame with
  | .ok note => (printer.printNote wanted note, .ok ())
  | .error error => (printer, .error (.of (.decode error)))

/-- Takes a snapshot of the mempool. -/
def hearSnapshot (wanted : Int) (printer : Printer) (snapshot : MempoolWatcher.Snapshot) :
    Printer :=
  let seen := printer.seen + 1
  { lines := printer.lines ++ Listing.snapshotLines snapshot
    seen := seen
    enough := printer.enough || reached wanted seen }

end Printer

structure Following (Memory : Type) where
  session : Session.State Memory
  printer : Printer
  taken : Except Failure Unit

namespace Following

open Session (Event Effect)

section

variable {Memory Delivery : Type}

def start : Following Memory := ⟨.initial, .start, .ok ()⟩

def takeEffect (hear : Printer → Delivery → Printer × Except Failure Unit)
    (following : Following Memory) : Effect Delivery → Following Memory
  | .connection (.call delivery) =>
      let (printer, taken) := hear following.printer delivery
      { following with printer := printer, taken := taken }
  | _ => following

/-- Whether an event can come about around the printer: the session learns the outcome of
its deliveries from the printer, and is asked to stop only once enough was seen. -/
def permits (following : Following Memory) : Event → Bool
  | .connection (.called (.ok _)) => following.taken.isOk
  | .connection (.called (.error failure)) =>
      match following.taken with
      | .ok _ => false
      | .error cause => decide (failure = cause)
  | .stopRequested => following.printer.enough
  | _ => true

/-- The next state, if the event is possible. -/
def step (options : Session.Options) (conversation : Conversation Memory Delivery)
    (hear : Printer → Delivery → Printer × Except Failure Unit)
    (following : Following Memory) (event : Event) : Option (Following Memory) :=
  if following.permits event then
    (Session.step options conversation following.session event).map fun next =>
      next.2.foldl (takeEffect hear) { following with session := next.1 }
  else none

/-- The state after events in order, if each of them is possible. -/
def run (options : Session.Options) (conversation : Conversation Memory Delivery)
    (hear : Printer → Delivery → Printer × Except Failure Unit)
    (following : Following Memory) : List Event → Option (Following Memory)
  | [] => some following
  | event :: events => do
      let next ← step options conversation hear following event
      run options conversation hear next events

end

end Following

end NodeBridge
