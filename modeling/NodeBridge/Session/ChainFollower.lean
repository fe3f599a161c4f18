import NodeBridge.Adaptive.Document
import NodeBridge.Session.Conversation

/-!
Following the chain. After the handshake the follower keeps a number of requests for the
next block under way: every frame that arrives frees one. Frames go to the callback as they
are. Blocks before the first wanted slot are withheld until a later one has been seen. The
point of the latest delivered frames is saved now and then, and when the connection ends.
-/

namespace NodeBridge

/-! The points that frames name. A block forward names its own point, a step back the point it
leads to. Frames that cannot be read, of either schema, name none. -/

def Current.Response.point? (response : Current.Response) : Option Point :=
  match response.blockResult with
  | .error _ => none
  | .ok result =>
      if result.direction = Current.forward then
        result.block.map fun block => .structural block.point
      else if result.direction = Current.backward then result.point
      else none

def framePoint? (frame : Bytes) : Option Point :=
  if frame.isEmpty then none
  else
    match Adaptive.decodeResponse frame with
    | .ok response => response.point?
    | .error _ => none

/-- The point of the first frame that names one. -/
def firstPoint? (frames : List Bytes) : Option Point := frames.findSome? framePoint?

namespace ChainFollower

structure Options where
  pipeline : Nat
  /-- Every so many frames the point is saved. -/
  saveInterval : Nat
  /-- Blocks of earlier slots are withheld; nothing is withheld unless this is positive. -/
  minSlot : Int
  /-- Where to start if nothing is stored. -/
  points : List Point

def capacity : Nat := 64

/-- How many delivered frames are kept for the last save. -/
def recentFrames : Nat := 3

structure Memory where
  filtering : Bool
  received : Nat
  /-- The latest delivered frames, the newest first. -/
  recent : List Bytes
deriving DecidableEq, Repr

def isEarly (minSlot : Int) (point : Option Point) : Bool :=
  match point with
  | some (.structural block) => block.slot < minSlot
  | _ => false

/-- Whether a frame with this point is the first that is late enough. -/
def isLate (minSlot : Int) (point : Option Point) : Bool :=
  match point with
  | some (.structural block) => minSlot ≤ block.slot
  | _ => false

/-- The point to save after a frame was taken. -/
def checkpoint (options : Options) (memory : Memory) (frame : Bytes) : Option Point :=
  if memory.received % options.saveInterval = 0 then firstPoint? (frame :: memory.recent)
  else none

def remember (memory : Memory) (frame : Bytes) : Memory :=
  { memory with recent := (frame :: memory.recent).take recentFrames }

def deliver (options : Options) (memory : Memory) (frame : Bytes) : Reaction Memory Bytes :=
  .deliver frame (checkpoint options memory frame) (remember memory frame) []

def react (options : Options) (memory : Memory) (frame : Bytes) : Reaction Memory Bytes :=
  if memory.filtering then
    let point := framePoint? frame
    if isEarly options.minSlot point then .proceed memory []
    else
      deliver options { memory with filtering := !isLate options.minSlot point } frame
  else deliver options memory frame

def conversation (options : Options) : Conversation Memory Bytes where
  name := "chainsync"
  opening := fun stored => some (Handshake.request stored options.points)
  queued := List.replicate (min options.pipeline capacity) .nextBlock
  capacity := some capacity
  greeting := []
  refill := [.nextBlock]
  memory := { filtering := 0 < options.minSlot, received := 0, recent := [] }
  count := fun memory => { memory with received := memory.received + 1 }
  react := react options
  parting := fun memory => firstPoint? memory.recent
  delivering := .followerCallback

/-- To go on from the origin can always be asked for. -/
theorem no_obstacle_to_origin {options : Options} {stored : List Point}
    (alone : Handshake.candidates stored options.points = [.origin]) :
    (conversation options).obstacle? stored = none := by
  have opens : ∃ content, (Handshake.request stored options.points).written = .ok content := by
    rw [Handshake.request_of_single alone]
    exact ⟨_, rfl⟩
  exact (Request.failure_eq_none_iff _).mpr opens

end ChainFollower

end NodeBridge
