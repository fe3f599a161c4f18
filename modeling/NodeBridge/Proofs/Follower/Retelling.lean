import NodeBridge.Proofs.Adaptive.Retelling
import NodeBridge.Proofs.Connection.Lockstep
import NodeBridge.Proofs.Follower.Memory

/-!
A chain follower does not care for the schema in which it is told of the chain. All that it
makes of a frame beyond handing it over is its point, and a frame has the same point in the
words of either schema; so two runs that are told the same, each in its own schema, go in
lockstep.
-/

namespace NodeBridge

/-- Whether a frame says what another one says: it is the same, or it carries the response of
the other one as the legacy schema tells it. -/
inductive Retells : Bytes → Bytes → Prop where
  | same (frame : Bytes) : Retells frame frame
  | legacy {frame retold : Bytes} {sent : Current.Response} {document : Json}
      (decodes : Adaptive.decodeResponse frame = .ok sent) (flat : sent.IsFlat)
      (encodes : Adaptive.encodeResponse sent = .ok document)
      (carries : Decode.parseBytes retold = .ok document) : Retells frame retold

theorem frame_point_eq (frame : Bytes) :
    framePoint? frame =
      (Adaptive.decodeResponse frame).toOption.bind Current.Response.point? := by
  cases frame with
  | nil => rfl
  | cons first rest =>
      unfold framePoint?
      rw [List.isEmpty_cons, if_neg Bool.false_ne_true]
      cases Adaptive.decodeResponse (first :: rest) <;> rfl

theorem decode_response_of_parse {frame : Bytes} {json : Json}
    (parses : Decode.parseBytes frame = .ok json) :
    Adaptive.decodeResponse frame = Adaptive.response.decode json := by
  unfold Adaptive.decodeResponse
  rw [parses]
  rfl

/-- A frame has the same point in the words of either schema. -/
theorem frame_point_of_retells {frame retold : Bytes} (retells : Retells frame retold) :
    framePoint? retold = framePoint? frame := by
  cases retells with
  | same => rfl
  | legacy decodes flat encodes carries =>
      obtain ⟨json, -, read⟩ := bind_eq_ok.mp decodes
      have point := Adaptive.point_of_encoded (Adaptive.readable_of_decode read) flat encodes
      rw [frame_point_eq, frame_point_eq, decode_response_of_parse carries, decodes, point]
      rfl

theorem first_point_of_retells {frames retold : List Bytes}
    (retells : List.Forall₂ Retells frames retold) : firstPoint? retold = firstPoint? frames := by
  unfold firstPoint?
  induction retells with
  | nil => rfl
  | cons first rest induction =>
      rw [List.findSome?_cons, List.findSome?_cons, frame_point_of_retells first, induction]

namespace ChainFollower

open Connection

/-- Memories that hold frames which say the same. -/
structure Memory.Alike (memory other : Memory) : Prop where
  filtering : memory.filtering = other.filtering
  received : memory.received = other.received
  recent : List.Forall₂ Retells memory.recent other.recent

theorem respects_conversation (options : Options) :
    (conversation options).Respects Memory.Alike Retells Retells where
  memory := ⟨rfl, rfl, .nil⟩
  count same := ⟨same.filtering, congrArg (· + 1) same.received, same.recent⟩
  parting same := (first_point_of_retells same.recent).symm
  react := by
    intro memory other frame retold same retells
    have delivers {first second : Memory} (alike : first.Alike second) :
        (deliver options first frame).Alike Memory.Alike Retells
          (deliver options second retold) := by
      have frames : List.Forall₂ Retells (frame :: first.recent) (retold :: second.recent) :=
        .cons retells alike.recent
      have saves : checkpoint options first frame = checkpoint options second retold := by
        unfold checkpoint
        rw [alike.received, first_point_of_retells frames]
      unfold deliver
      rw [saves]
      exact .deliver retells _ ⟨alike.filtering, alike.received, List.forall₂_take _ frames⟩ []
    show (react options memory frame).Alike Memory.Alike Retells (react options other retold)
    simp only [react, frame_point_of_retells retells, same.filtering]
    split
    · split
      · exact .proceed same []
      · exact delivers ⟨rfl, same.received, same.recent⟩
    · exact delivers same

/-- Two runs that are told the same, each in the words of either schema, show the same: they
hand over at the same places, save the same points and send the same requests. A frame has the
same point in either schema. -/
theorem retold_in_lockstep (options : Options) (stored : List Point) {events retold : List Event}
    (retells : List.Forall₂ (Event.Alike Retells) events retold) :
    (run (conversation options) (.start (conversation options) stored) retold).map outline =
        (run (conversation options) (.start (conversation options) stored) events).map outline ∧
      ∀ frame other, Retells frame other → framePoint? other = framePoint? frame :=
  ⟨outline_of_run (respects_conversation options) Retells.same retells stored,
    fun _ _ => frame_point_of_retells⟩

/-- The step back in the words of the legacy schema. -/
def stepBackRetold : Bytes :=
  Text.encodeUtf8 ("\x7b\"type\":\"response\",\"version\":\"1.0\",\"servicename\":\"ogmios\"," ++
    "\"methodname\":\"RequestNext\",\"result\":\x7b\"RollBackward\":" ++
    "\x7b\"point\":\x7b\"slot\":5\x7d,\"tip\":\x7b\x7d\x7d\x7d\x7d")

theorem retells_step_back : Retells stepBack stepBackRetold := by
  have decodes : Adaptive.decodeResponse stepBack = .ok ⟨"", Current.nextBlock,
      some (.block ⟨Current.backward, none, none, some (.structural ⟨"", 5, none⟩)⟩), none,
      .null⟩ := by
    rw [decode_response_of_parse parse_step_back]
    rfl
  refine .legacy decodes ?_ rfl (by decide +kernel)
  intro result block holds direction there
  cases holds
  cases there
  rfl

/-- A frame that is handed over and taken. -/
def taking (frame : Bytes) : List Event :=
  [.writerStarts, .readerStarts, .received (.ok (.text frame)), .called (.ok ())]

theorem retold_in_lockstep_of_step_back :
    let follower := conversation ⟨1, 1, 0, []⟩
    (run follower (.start follower []) (taking stepBackRetold)).map outline =
        (run follower (.start follower []) (taking stepBack)).map outline ∧
      ((run follower (.start follower []) (taking stepBack)).map fun ran =>
        ran.2.flatMap fun turn => turn.2.filterMap Effect.point?) =
          some [.structural ⟨"", 5, none⟩] ∧
      framePoint? stepBackRetold = framePoint? stepBack := by
  have retells : List.Forall₂ (Event.Alike Retells) (taking stepBack) (taking stepBackRetold) :=
    .cons (.same _) (.cons (.same _) (.cons (.received (.text retells_step_back))
      (.cons (.same _) .nil)))
  have lockstep := retold_in_lockstep ⟨1, 1, 0, []⟩ [] retells
  exact ⟨lockstep.1, by decide +kernel, lockstep.2 _ _ retells_step_back⟩

end ChainFollower

end NodeBridge
