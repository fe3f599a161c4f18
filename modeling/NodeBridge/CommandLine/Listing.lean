import NodeBridge.Adaptive.Document
import NodeBridge.Ledger.Utxo
import NodeBridge.Query.Submission
import NodeBridge.Session.ChainFollower
import NodeBridge.Session.MempoolWatcher

/-!
What the commands print, line by line.
-/

namespace NodeBridge.Listing

/-- The line of one coin of an output. -/
def coinLine (coin : Coin) : String :=
  s!"    {coin.asset.text}: {Text.integerText coin.amount}"

/-- The line of an output, and those of what it holds besides the native asset. -/
def utxoLines (utxo : Utxo) : List String :=
  let lovelace := Text.integerText utxo.value.lovelace
  let index := Text.integerText utxo.index
  s!"{utxo.transaction}#{index}  {utxo.address}  lovelace={lovelace}" ::
    (utxo.value.coins.filter fun coin => coin.asset.policy ≠ "ada").map coinLine

def snapshotLines (snapshot : MempoolWatcher.Snapshot) : List String :=
  let slot := Text.integerText snapshot.slot
  s!"slot={slot} transactions={snapshot.transactions.length}" ::
    snapshot.transactions.map fun transaction => s!"  {transaction.id}"

/-- The complaint about a transaction that was not taken. -/
def submissionComplaint (code : Int) (message : String) : String :=
  s!"submit failed ({Text.integerText code}): {message}"

inductive Note where
  /-- A block of an era that is not supported. -/
  | unsupported
  /-- An answer to the handshake, or another answer without a step. -/
  | handshake (line : String)
  | block (line : String)
  | rollback (line : String)
  | idle
deriving DecidableEq, Repr

def pointText : Option Point → String
  | some point => point.text
  | none => "None"

def stepNote (result : Current.BlockResult) : Note :=
  match decide (result.direction = Current.forward), result.block with
  | true, some block => .block (Point.structural block.point).text
  | _, _ =>
      if result.direction = Current.backward then
        .rollback s!"rollback to {pointText result.point}"
      else .idle

/-- Reads a frame; what is neither a block nor a step back is shown as a document. -/
def note (frame : Bytes) : Except DecodeError Note :=
  match Adaptive.decodeResponse frame with
  | .error (.unsupportedEra _) => .ok .unsupported
  | .error (.decode error) => .error error
  | .error (.misuse _) => .ok .idle
  | .ok response =>
      match response.blockResult with
      | .ok result => .ok (stepNote result)
      | .error _ => .ok (.handshake s!"intersection: {response.toJson.plainText}")

def Note.line? : Note → Option String
  | .unsupported => none
  | .handshake line => some line
  | .block line => some line
  | .rollback line => some line
  | .idle => none

def Note.isBlock : Note → Bool
  | .block _ => true
  | _ => false

/-- Whether a note is of a step, after which the count of blocks is looked at. -/
def Note.isStep : Note → Bool
  | .unsupported => false
  | .handshake _ => false
  | .block _ => true
  | .rollback _ => true
  | .idle => true

end NodeBridge.Listing
