import NodeBridge.CommandLine.Following
import NodeBridge.CommandLine.Invocation
import NodeBridge.Query.LedgerState
import NodeBridge.Session.Simulation

/-!
The commands as wholes. A question is one payload and what is printed about its reply. A
session is run in a scripted world, frame by frame, until the command has seen enough.
-/

namespace NodeBridge

inductive Ending where
  | done
  | complaint (message : String)
  | query (failure : QueryFailure)
  | settings (error : SettingsError)
deriving DecidableEq

namespace Program

/-- The settings file that is read unless another one is named. -/
def defaultPath : String := "ogsync.yaml"

def path (invocation : Invocation) : String :=
  match invocation.config with
  | some path => if path.isEmpty then defaultPath else path
  | none => defaultPath

structure Question where
  payload : Json
  conclude : Reply → List String × Ending

def ask {α : Type} (query : Query α) (lines : α → List String) : Question :=
  ⟨query.payload, fun reply =>
    match query.answer reply with
    | .ok answer => (lines answer, .done)
    | .error failure => ([], .query failure)⟩

def submit (transaction : String) : Question :=
  ⟨Submission.payload transaction, fun reply =>
    match Submission.answer reply with
    | .ok (.accepted id) => ([id], .done)
    | .ok (.refused code message _) => ([], .complaint (Listing.submissionComplaint code message))
    | .error failure => ([], .query failure)⟩

/-- What a command does once its settings are known. -/
inductive Task where
  | question (question : Question)
  /-- Follows the chain, with checkpoints in a file if one is named. -/
  | follow (options : ChainFollower.Options) (checkpoints : Option String) (maxBlocks : Int)
  | watch (snapshots : Int)

/-- The point to start from, if both its slot and its hash are given. -/
def startingPoints (arguments : FollowArguments) : List Point :=
  match arguments.fromSlot, arguments.fromHash with
  | some slot, some hash => if hash.isEmpty then [] else [.structural ⟨hash, slot, none⟩]
  | _, _ => []

def followOptions (settings : Settings) (arguments : FollowArguments) :
    ChainFollower.Options :=
  { pipeline := (Settings.whole settings.pipeline).toNat
    saveInterval := (Settings.whole settings.saveInterval).toNat
    minSlot := arguments.minSlot.getD (Settings.whole settings.minSlot)
    points := startingPoints arguments }

def task (settings : Settings) : Command → Except SettingsError Task
  | .tip => .ok (.question (ask Query.chainTip fun point => [point.text]))
  | .utxos addresses =>
      .ok (.question (ask (Query.utxosByAddress addresses) fun utxos =>
        utxos.flatMap Listing.utxoLines))
  | .submit transaction => .ok (.question (submit transaction))
  | .chainSync arguments =>
      settings.checkpointPath.map fun path =>
        .follow (followOptions settings arguments) path arguments.maxBlocks
  | .mempool snapshots => .ok (.watch snapshots)

/-- The task of an invocation, if its settings are in order. -/
def prepare (invocation : Invocation) (document : Option Json) (environment : Option String) :
    Except SettingsError (Settings × Task) := do
  let settings ← invocation.settings (path invocation) document environment
  settings.checkLevel invocation.verbose
  settings.check
  (task settings invocation.command).map (settings, ·)

/-- How long a command waits before it dials again, in milliseconds. -/
def reconnectDelay : Nat := 10000

def sessionOptions (settings : Settings) (loads : Bool) : Session.Options :=
  ⟨settings.reconnect.isTruthy, reconnectDelay, loads⟩

section

variable {Memory Delivery : Type}

structure Rehearsal (Memory Delivery : Type) where
  world : Simulation.World Memory Delivery
  printer : Printer
  /-- All requests so far, each beside the number of its line. -/
  sent : List (Nat × Request)
  saved : List Point

/-- What a command runs: the session and what its printer makes of deliveries. -/
structure Run (Memory Delivery : Type) where
  options : Session.Options
  conversation : Conversation Memory Delivery
  hear : Printer → Delivery → Printer × Except Failure Unit
  /-- Whether points are saved in a file. -/
  saves : Bool

namespace Run

def refusal (run : Run Memory Delivery) (delivery : Delivery) : Option Failure :=
  match (run.hear .start delivery).2 with
  | .ok _ => none
  | .error failure => some failure

def observe (run : Run Memory Delivery) (rehearsal : Rehearsal Memory Delivery)
    (world : Simulation.World Memory Delivery) : Rehearsal Memory Delivery :=
  { world := world
    printer := world.record.delivered.foldl
      (fun printer delivery => (run.hear printer delivery).1) rehearsal.printer
    sent := rehearsal.sent ++ world.record.sent
    saved := rehearsal.saved ++ world.record.saved }

def proceed (run : Run Memory Delivery) (rehearsal : Rehearsal Memory Delivery)
    (occurrence : Simulation.Occurrence) : Rehearsal Memory Delivery :=
  run.observe rehearsal (rehearsal.world.proceed run.options run.conversation occurrence)

/-- Asks the session to stop once enough was seen. -/
def stopIfEnough (run : Run Memory Delivery) (rehearsal : Rehearsal Memory Delivery) :
    Rehearsal Memory Delivery :=
  if rehearsal.printer.enough then run.proceed rehearsal .stop else rehearsal

def take (run : Run Memory Delivery) (rehearsal : Rehearsal Memory Delivery) (frame : Frame) :
    Rehearsal Memory Delivery :=
  run.stopIfEnough (run.proceed rehearsal (.arrival (.ok frame)))

/-- What comes of the store. A file takes its time to be written. -/
def storeOf (run : Run Memory Delivery) : Except Failure (List Point) → Simulation.StoreScript
  | .ok points => ⟨points, none, none, run.saves⟩
  | .error failure => ⟨[], some failure, none, run.saves⟩

/-- The session once it waits for its first frame, given what comes of the store. -/
def begin (run : Run Memory Delivery) (stored : Except Failure (List Point))
    (dials : List (Except Failure Simulation.LineScript)) : Rehearsal Memory Delivery :=
  let script : Simulation.Script Delivery :=
    { dials := dials, store := run.storeOf stored, refusal := fun _ => run.refusal }
  let world := Simulation.World.begin run.options run.conversation script
  run.observe ⟨world, .start, [], []⟩ world

/-- All frames, a close frame after them, and then the pauses between further dials. -/
def perform (run : Run Memory Delivery) (dials : List (Except Failure Simulation.LineScript))
    (frames : List Frame) : Rehearsal Memory Delivery :=
  let heard := (frames ++ [Frame.close]).foldl run.take (run.begin (.ok []) dials)
  (List.replicate dials.length Simulation.Occurrence.elapse).foldl run.proceed heard

end Run

def Rehearsal.ending (rehearsal : Rehearsal Memory Delivery) (what : String) : Ending :=
  match rehearsal.world.session.failure? with
  | some failure => .complaint s!"{what} failed: {failure.message}"
  | none => .done

/-- The first request on each line that had one. -/
def Rehearsal.firstRequests (rehearsal : Rehearsal Memory Delivery) : List Request :=
  (List.range rehearsal.world.lines.length).filterMap fun number =>
    rehearsal.sent.lookup (number + 1)

end

/-- Whether the settings name a file for checkpoints. -/
def keepsCheckpoints (settings : Settings) : Bool :=
  match settings.checkpointPath with
  | .ok (some _) => true
  | _ => false

def followRun (settings : Settings) (options : ChainFollower.Options) (maxBlocks : Int) :
    Run ChainFollower.Memory Bytes :=
  ⟨sessionOptions settings true, ChainFollower.conversation options, Printer.hear maxBlocks,
    keepsCheckpoints settings⟩

def watchRun (settings : Settings) (snapshots : Int) :
    Run MempoolWatcher.Snapshot MempoolWatcher.Snapshot :=
  ⟨sessionOptions settings false, MempoolWatcher.conversation,
    fun printer snapshot => (printer.hearSnapshot snapshots snapshot, .ok ()), false⟩

def followName : String := "chainsync"

def watchName : String := "mempool monitoring"

end Program

end NodeBridge
