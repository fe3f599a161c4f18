import NodeBridge.CommandLine.Program
import NodeBridge.Store.Checkpoints

/-!
The program. It is told by its arguments what to do, and it has no network of its own: what
it asks the node goes to the standard error stream, a line each, and the answers come as
lines of the standard input. Settings are read from a document in a file, and checkpoints
are kept in another file.
-/

namespace NodeBridge.Terminal

/-- The content of a file, if there is one that can be read. -/
def readFile? (path : String) : IO (Option Bytes) := do
  try
    let content ← IO.FS.readBinFile path
    return some content.toList
  catch _ => return none

/-- Writes a file beside the place and then puts it there, so that no part of a file is ever
found in the place. -/
def writeFile (path : String) (content : Bytes) : IO Unit := do
  let beside := path ++ ".tmp"
  IO.FS.writeBinFile beside (ByteArray.mk content.toArray)
  IO.FS.rename beside path

/-- The document in a file, if there is a file. -/
def readSettings (path : String) : IO (Option Json) := do
  match ← readFile? path with
  | none => return none
  | some content =>
      match (Text.decodeChars content).bind Json.readDocument with
      | some document => return some document
      | none => throw (IO.userError s!"{path}: not a document")

/-- A line of the input without its end, unless the input is over. -/
def readLine? (input : IO.FS.Stream) : IO (Option String) := do
  let line ← input.getLine
  if line.isEmpty then return none
  else return some (String.ofList (line.toList.takeWhile (· ≠ '\n')))

def finish (ending : Ending) : IO UInt32 := do
  let complain (message : String) : IO UInt32 := do
    IO.eprintln message
    return 1
  match ending with
  | .done => return 0
  | .complaint message => complain message
  | .query failure => complain (failure.message?.getD "the query failed")
  | .settings error => complain (error.message?.getD "the settings hold a value of a wrong kind")

def runQuestion (address : String) (question : Program.Question) : IO UInt32 := do
  let input ← IO.getStdin
  IO.eprintln s!"{address} {question.payload.asciiText}"
  let body ← readLine? input
  let (lines, ending) := question.conclude ⟨200, body.getD ""⟩
  lines.forM IO.println
  finish ending

/-- The checkpoints in a file; there are none without a file. -/
def loadCheckpoints (path : Option String) : IO CheckpointFile := do
  match path with
  | none => return ⟨"", CheckpointFile.defaultKeep, none⟩
  | some path => return ⟨path, CheckpointFile.defaultKeep, ← readFile? path⟩

def stored (file : CheckpointFile) : Except Failure (List Point) :=
  file.load.mapError fun error => .of (.reported error.message)

/-- Saves one point after the other. -/
def saveCheckpoints (file : CheckpointFile) : List Point → IO CheckpointFile
  | [] => return file
  | point :: points => do
      match file.save point with
      | .error error => throw (IO.userError error.message)
      | .ok saved =>
          if !saved.path.isEmpty then writeFile saved.path (saved.content.getD [])
          saveCheckpoints saved points

/-- Shows a request that was sent. What cannot be written is never sent. -/
def showRequest (request : Request) : IO Unit :=
  match request.written with
  | .ok text => IO.eprintln text
  | .error error => throw (IO.userError error.message)

section

variable {Memory Delivery : Type}

/-- Shows what was printed and sent since an earlier state of the session, and saves the
points since then. -/
def showProgress (file : CheckpointFile) (before after : Program.Rehearsal Memory Delivery) :
    IO CheckpointFile := do
  (after.sent.drop before.sent.length).forM fun entry => showRequest entry.2
  (after.printer.lines.drop before.printer.lines.length).forM IO.println
  saveCheckpoints file (after.saved.drop before.saved.length)

/-- Hands each line of the input to the session as a frame. -/
partial def runSession (run : Program.Run Memory Delivery) (what : String)
    (file : CheckpointFile) (rehearsal : Program.Rehearsal Memory Delivery)
    (input : IO.FS.Stream) : IO UInt32 := do
  if rehearsal.world.session.isEnded then finish (rehearsal.ending what)
  else
    let frame := match ← readLine? input with
      | some line => Frame.text (Text.encodeUtf8 line)
      | none => Frame.close
    let next := run.take rehearsal frame
    let file ← showProgress file rehearsal next
    runSession run what file next input

end

/-- A line on which nothing is scripted. -/
def plainLine : Simulation.LineScript :=
  { failingSend := none, sendFailure := .of .websocket, hangingSend := none, pongFailure := none
    farewell := .ok .close, closeFailure := none }

def beginSession {Memory Delivery : Type} (run : Program.Run Memory Delivery) (what : String)
    (checkpoints : Option String) : IO UInt32 := do
  let file ← loadCheckpoints checkpoints
  let rehearsal := run.begin (stored file) [.ok plainLine]
  rehearsal.sent.forM fun entry => showRequest entry.2
  runSession run what file rehearsal (← IO.getStdin)

def runTask (settings : Settings) : Program.Task → IO UInt32
  | .question question =>
      match settings.address with
      | .ok address => runQuestion (Post.address address) question
      | .error error => finish (.settings error)
  | .follow options checkpoints maxBlocks =>
      beginSession (Program.followRun settings options maxBlocks) Program.followName checkpoints
  | .watch snapshots =>
      beginSession (Program.watchRun settings snapshots) Program.watchName none

def run (arguments : List String) : IO UInt32 := do
  match Invocation.parse arguments with
  | .error stop => return UInt32.ofNat (Invocation.status stop)
  | .ok invocation =>
      let document ← readSettings (Program.path invocation)
      let environment ← IO.getEnv "OGMIOS"
      match Program.prepare invocation document environment with
      | .error error => finish (.settings error)
      | .ok (settings, task) => runTask settings task

end NodeBridge.Terminal

def main (arguments : List String) : IO UInt32 := NodeBridge.Terminal.run arguments
