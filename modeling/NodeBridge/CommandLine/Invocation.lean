import NodeBridge.CommandLine.Arguments
import NodeBridge.Settings

/-!
The commands of the program and their arguments.
-/

namespace NodeBridge

structure FollowArguments where
  fromSlot : Option Int
  fromHash : Option String
  minSlot : Option Int
  /-- After how many blocks to stop; zero means never. -/
  maxBlocks : Int
deriving DecidableEq, Repr

inductive Command where
  | tip
  | chainSync (arguments : FollowArguments)
  /-- Watches the mempool for so many snapshots; zero means for ever. -/
  | mempool (snapshots : Int)
  | utxos (addresses : List String)
  | submit (transaction : String)
deriving DecidableEq, Repr

structure Invocation where
  config : Option String
  endpoint : Option String
  verbose : Bool
  command : Command
deriving DecidableEq, Repr

namespace Invocation

open Arguments

def helpOption : OptionSpec := ⟨"help", ["-h", "--help"], .help⟩

def mainGrammar : Grammar :=
  { options := [helpOption, ⟨"config", ["--config"], .text⟩,
      ⟨"endpoint", ["--endpoint"], .text⟩, ⟨"verbose", ["-v", "--verbose"], .flag⟩]
    operands := .rest }

def followOptions : List OptionSpec :=
  [helpOption, ⟨"from_slot", ["--from-slot"], .number⟩, ⟨"from_hash", ["--from-hash"], .text⟩,
    ⟨"min_slot", ["--min-slot"], .number⟩, ⟨"max_blocks", ["--max-blocks"], .number⟩]

def mempoolOptions : List OptionSpec :=
  [helpOption, ⟨"snapshots", ["--snapshots"], .number⟩]

/-- A command as it is given: its grammar, and what its arguments make of it. -/
structure CommandSpec where
  name : String
  grammar : Grammar
  build : Parsed → Command

def buildFollow (parsed : Parsed) : Command :=
  .chainSync
    { fromSlot := parsed.number? "from_slot"
      fromHash := parsed.text? "from_hash"
      minSlot := parsed.number? "min_slot"
      maxBlocks := (parsed.number? "max_blocks").getD 0 }

def commands : List CommandSpec :=
  [⟨"tip", ⟨[helpOption], .none⟩, fun _ => .tip⟩,
    ⟨"chainsync", ⟨followOptions, .none⟩, buildFollow⟩,
    ⟨"mempool", ⟨mempoolOptions, .none⟩, fun parsed =>
      .mempool ((parsed.number? "snapshots").getD 0)⟩,
    ⟨"utxos", ⟨[helpOption], .some⟩, fun parsed => .utxos (parsed.operands.getD [])⟩,
    ⟨"submit", ⟨[helpOption], .one⟩, fun parsed =>
      .submit ((parsed.operands.getD []).headD "")⟩]

/-- Reads all arguments. What a command does not take is a misuse, but only after its help
was not asked for. -/
def parse (arguments : List String) : Except Stop Invocation := do
  let parsed ← Arguments.parse mainGrammar arguments
  match parsed.operands with
  | some (name :: rest) =>
      match commands.find? fun command => command.name = name with
      | none => .error .misuse
      | some command => do
          let inner ← Arguments.parse command.grammar rest
          if parsed.surplus || inner.surplus then .error .misuse
          else
            .ok
              { config := parsed.text? "config"
                endpoint := parsed.text? "endpoint"
                verbose := parsed.has "verbose"
                command := command.build inner }
  | _ => .error .misuse

/-- The status with which a program ends that was not given what it takes. -/
def status : Stop → Nat
  | .help => 0
  | .misuse => 2

/-- The settings in effect: those of the file, the endpoint of the environment before that
of the file, and the endpoint of the arguments before both. -/
def settings (invocation : Invocation) (path : String) (document : Option Json)
    (environment : Option String) : Except SettingsError Settings := do
  let read ← Settings.ofDocument path (document.getD .null)
  .ok ((read.withEndpoint (environment.getD "")).withEndpoint (invocation.endpoint.getD ""))

end Invocation

end NodeBridge
