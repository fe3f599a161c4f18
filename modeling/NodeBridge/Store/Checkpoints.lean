import NodeBridge.Cbor.Reader
import NodeBridge.Cbor.Writer
import NodeBridge.Chain.Point

/-!
Checkpoints of a chain follower in a file. The file is a binary list of points, the
foremost first, and holds a bounded number of them. Saving a point puts it in front of the
others of its rank and drops the hindmost; a file that cannot be read is left as it is.
-/

namespace NodeBridge

inductive CheckpointError where
  | decode (error : DecodeError)
  /-- An entry of the list is not a byte string. -/
  | notBytes (found : Kind)
deriving DecidableEq

def CheckpointError.message : CheckpointError → String
  | .decode error => error.message
  | .notBytes found => s!"a checkpoint is a byte string, not {found.name}"

abbrev CheckpointResult (α : Type) := Except CheckpointError α

namespace Checkpoints

/-- The point of an entry. Entries that are worth nothing stand for no point. -/
def pointOf (item : Cbor.Item) : CheckpointResult (Option Point) :=
  if item.isVoid then .ok none
  else
    match item with
    | .bytes bytes => (Point.ofCbor bytes).mapError .decode
    | other => .error (.notBytes other.kind)

/-- The points of all entries in order, up to the first failure. -/
def pointsOf : List Cbor.Item → CheckpointResult (List Point)
  | [] => .ok []
  | item :: items => do
      let point ← pointOf item
      let points ← pointsOf items
      .ok (point.toList ++ points)

/-- Reads the content of a file; messages name its path. -/
def ofBytes (path : String) (content : Bytes) : CheckpointResult (List Point) := do
  match (← (Cbor.decode content).mapError .decode).unrolled with
  | .list items => pointsOf items
  | _ => .error (.decode (.checkpointsNotList path))

def toBytes (points : List Point) : Bytes :=
  Cbor.encodeByteStrings (points.map Point.toCbor)

/-- The first so many points; a negative number says how many to leave out at the end. -/
def keepFirst (keep : Int) (points : List Point) : List Point :=
  if 0 ≤ keep then points.take keep.toNat else points.take (points.length - keep.natAbs)

/-- The points after another one was saved. -/
def add (keep : Int) (point : Point) (points : List Point) : List Point :=
  keepFirst keep (Point.sorted (point :: points.filter (· ≠ point)))

end Checkpoints

/-- A place for checkpoints: how many are kept, and the content of the file if there is
one. -/
structure CheckpointFile where
  path : String
  keep : Int
  content : Option Bytes

namespace CheckpointFile

/-- How many checkpoints are kept unless something else is asked for. -/
def defaultKeep : Int := 5

def load (file : CheckpointFile) : CheckpointResult (List Point) :=
  match file.content with
  | none => .ok []
  | some content => Checkpoints.ofBytes file.path content

def save (file : CheckpointFile) (point : Point) : CheckpointResult CheckpointFile :=
  file.load.map fun points =>
    { file with content := some (Checkpoints.toBytes (Checkpoints.add file.keep point points)) }

end CheckpointFile

end NodeBridge
