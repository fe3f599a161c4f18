import NodeBridge.Proofs.Adaptive.MempoolTransaction
import NodeBridge.Proofs.Document.Digits
import NodeBridge.Proofs.Session.Refusals
import NodeBridge.Proofs.Watcher.Reply

/-!
What a mempool watcher makes of frames that are no proper replies. It is over with a protocol error,
with one exception: a slot that is no whole number is told by the error of its reader alone. No
frame of any content makes a message that could not be written.
-/

namespace NodeBridge.MempoolWatcher

/-- Whether a frame says that a snapshot was acquired and tells a slot that cannot be read. -/
def MisstatesSlot (frame : Bytes) (error : DecodeError) : Prop :=
  ∃ reply, readReply frame = .ok reply ∧ reply.method = acquireMempool ∧
    Decode.integer "acquireMempool.slot" (Json.get reply.result "slot") = .error error

/-- The arrival of a text frame. -/
def arrival (frame : Bytes) : Session.Event := .connection (.received (.ok (.text frame)))

/-- How a watcher may refuse a frame. -/
structure RefusedWith (frame : Bytes) (failure : Failure) : Prop where
  /-- The failure is a protocol error if the slot is not misstated. -/
  protocol : (∀ error, ¬MisstatesSlot frame error) →
    ∃ complaint : Complaint, failure.fault = .protocol complaint.message
  /-- Otherwise it is the bare error of reading the slot. -/
  bare : ∀ error, MisstatesSlot frame error → failure = .of (.decode error)
  /-- What could not be read is complained about, and nothing else went wrong. -/
  complains : ∀ error, .decode error ∈ failure.fault :: failure.trail.map Prod.snd →
    error.isComplaint = true

section

variable {frame : Bytes} {memory : Snapshot} {reply : Reply} {complaint : Complaint}
  {failure : Failure}

theorem Complaint.fault_failure (complaint : Complaint) :
    complaint.failure.fault = .protocol complaint.message := by
  cases complaint <;> rfl

theorem Complaint.cause_of_mem_failure {error : DecodeError}
    (member : .decode error ∈ complaint.failure.fault :: complaint.failure.trail.map Prod.snd) :
    complaint.cause? = some error := by
  cases complaint with
  | unreadable cause | transaction cause =>
      simp only [failure, cause?, Failure.causing, Failure.of, List.map_cons, List.map_nil,
        List.mem_cons, List.not_mem_nil, or_false, reduceCtorEq, false_or,
        Fault.decode.injEq] at member
      rw [member]
      rfl
  | reported method error => simp [failure, cause?, Failure.of] at member
  | unexpected method => simp [failure, cause?, Failure.of] at member

/-- Whether nothing but a complaint about a document is behind a complaint of the watcher. -/
def Complaint.isSound (complaint : Complaint) : Bool :=
  complaint.cause?.all DecodeError.isComplaint

theorem sound_of_unreadable {α : Type} {outcome : Decoded α} :
    FailsWithin Complaint.isSound (outcome.mapError .unreadable) ↔ Complains outcome :=
  fails_within_map_error _

theorem sound_read_reply (frame : Bytes) :
    FailsWithin Complaint.isSound (readReply frame) := by
  simp only [readReply, fails_within_bind, sound_of_unreadable, Decode.complains_parse_bytes,
    Decode.complains_object]
  intro json _ fields _
  split
  · simp only [fails_within_bind, sound_of_unreadable, Decode.complains_object, fails_within_ok,
      implies_true]
  · simp [Complaint.isSound, Complaint.cause?]

theorem refused_with_complaint (states : ∀ error, ¬MisstatesSlot frame error)
    (sound : complaint.isSound = true) : RefusedWith frame complaint.failure where
  protocol _ := ⟨complaint, complaint.fault_failure⟩
  bare error misstates := absurd misstates (states error)
  complains error member := by
    simpa [Complaint.isSound, Complaint.cause_of_mem_failure member] using sound

theorem refused_with_of_answer (read : readReply frame = .ok reply)
    (refuses : answer memory reply = .refuse failure) : RefusedWith frame failure := by
  unfold answer at refuses
  split at refuses
  · next acquires =>
      split at refuses
      · cases refuses
      · next error unread =>
          cases refuses
          have misstates : MisstatesSlot frame error := ⟨reply, read, acquires, unread⟩
          refine ⟨fun states => absurd misstates (states error), ?_, ?_⟩
          · rintro other ⟨again, reads, -, fails⟩
            rw [read] at reads
            cases reads
            rw [unread] at fails
            cases fails
            rfl
          · intro other member
            simp only [Failure.of, List.map_nil, List.mem_singleton, Fault.decode.injEq] at member
            subst member
            exact Decode.complains_integer _ _ other unread
  · next others =>
      have states (error : DecodeError) : ¬MisstatesSlot frame error := by
        rintro ⟨again, reads, acquires, -⟩
        rw [read] at reads
        cases reads
        exact others acquires
      split at refuses
      · dsimp only at refuses
        split at refuses
        · cases refuses
        · split at refuses
          · cases refuses
          · next error unread =>
              cases refuses
              exact refused_with_complaint states
                (Adaptive.complains_mempool_transaction _ error unread)
      · cases refuses
        exact refused_with_complaint states rfl

/-- A frame is refused as what it is no proper reply for. -/
theorem refused_with_of_react (refuses : react memory frame = .refuse failure) :
    RefusedWith frame failure := by
  unfold react at refuses
  cases read : readReply frame with
  | ok reply =>
      rw [read] at refuses
      exact refused_with_of_answer read refuses
  | error complaint =>
      rw [read] at refuses
      cases refuses
      apply refused_with_complaint
      · rintro error ⟨reply, reads, -⟩
        rw [read] at reads
        cases reads
      · exact sound_read_reply frame complaint read

end

/-- A listening watcher answers a proper reply and goes on. Any other frame ends its session, with a
protocol error if the slot is not misstated, and with the bare error of reading the slot otherwise.
Once it was stopped, a watcher does not look at frames. -/
theorem refused_frame_ends_session {options : Session.Options} {events : List Session.Event}
    {state : Session.State Snapshot} {connection : Connection.State Snapshot}
    {told : List (Session.Event × List (Session.Effect Snapshot))}
    (ran : Session.run options conversation .initial events = some (state, told))
    (connected : state.phase = .connected connection)
    (receiving : connection.reader = .receiving) (frame : Bytes) :
    (∀ json, Decode.parseBytes frame = .ok json → json.isWritable = true) ∧
    if connection.stopped then
      ∀ other, Session.step options conversation state (arrival frame) =
        Session.step options conversation state (arrival other)
    else
      ∃ next effects,
        Session.step options conversation state (arrival frame) = some (next, effects) ∧
        effects.any Session.Effect.dials = false ∧
        match answerOf? frame with
        | some _ => ∃ later, next.phase = .connected later ∧ later.stopped = false ∧
            later.failure = none
        | none => ∃ failure, RefusedWith frame failure ∧
            next.EndsOver options conversation failure := by
  refine ⟨fun _ => Decode.writable_of_parse_bytes, ?_⟩
  split
  · next stopped => exact Session.step_of_text_of_stopped connected stopped frame
  · next going =>
      have running : connection.stopped = false := Bool.eq_false_iff.mpr going
      obtain ⟨stored, past, reached, -⟩ := Session.reached_of_connected ran connected
      have unfailing := Connection.unfailing_of_running reached running
      obtain ⟨next, effects, possible, quiet, verdict⟩ :=
        Session.verdict_of_text refuses_for_good connected receiving running unfailing
      refine ⟨next, effects, possible, quiet, ?_⟩
      rcases react_cases connection.memory frame with
        ⟨answer, reads, responds⟩ | ⟨unread, failure, refuses⟩
      · rw [reads]
        cases verdict with
        | accepted later phase goes fine => exact ⟨later, phase, goes, fine⟩
        | refused failure refuses =>
            have same : respond connection.memory answer = .refuse failure :=
              responds.symm.trans refuses
            cases answer <;> cases same
      · rw [unread]
        cases verdict with
        | accepted later phase goes fine accepts => exact absurd refuses (accepts failure)
        | refused failure refuses final =>
            exact ⟨failure, refused_with_of_react refuses, final⟩

/-- A watcher that listens to its first line. -/
def listening : List Session.Event := [.dialed (.ok ()), .connection .readerStarts]

theorem refused_frame_ends_session_of_garbage :
    ∃ state told next effects failure,
      Session.run ⟨true, 0, false⟩ conversation .initial listening = some (state, told) ∧
      Session.step ⟨true, 0, false⟩ conversation state (arrival [0xff]) = some (next, effects) ∧
      (∃ complaint : Complaint, failure.fault = .protocol complaint.message) ∧
      next.EndsOver ⟨true, 0, false⟩ conversation failure := by
  obtain ⟨state, told, connection, ran, connected, receiving, running⟩ :
      ∃ state told connection,
        Session.run ⟨true, 0, false⟩ conversation .initial listening = some (state, told) ∧
        state.phase = .connected connection ∧ connection.reader = .receiving ∧
        connection.stopped = false := ⟨_, _, _, rfl, rfl, rfl, rfl⟩
  have unread : answerOf? [0xff] = none := rfl
  have states (error : DecodeError) : ¬MisstatesSlot [0xff] error := by
    rintro ⟨reply, reads, -⟩
    cases reads
  have outcome := (refused_frame_ends_session ran connected receiving [0xff]).2
  rw [if_neg (by simp [running])] at outcome
  obtain ⟨next, effects, possible, -, ends⟩ := outcome
  rw [unread] at ends
  obtain ⟨failure, refused, final⟩ := ends
  exact ⟨state, told, next, effects, failure, ran, possible, refused.protocol states, final⟩

/-- A frame that tells a slot in words. -/
def wordySlot : Bytes :=
  Text.encodeUtf8 "\x7b\"method\":\"acquireMempool\",\"result\":\x7b\"slot\":\"x\"\x7d\x7d"

theorem react_wordy_slot (memory : Snapshot) : react memory wordySlot =
    .refuse (.of (.decode (.notWhole "acquireMempool.slot" "'x'"))) := by
  have parsed : Decode.parseBytes wordySlot = .ok (.object [("method", .text "acquireMempool"),
      ("result", .object [("slot", .text "x")])]) := by decide +kernel
  have read : readReply wordySlot = .ok ⟨"acquireMempool", [("slot", .text "x")]⟩ := by
    unfold readReply
    rw [parsed]
    rfl
  unfold react
  rw [read]
  rfl

/-- What is left to do for a connection on which nothing was asked for. -/
def unwinding : List Session.Event :=
  [.connection .closerWakes, .connection (.closed (.ok ())), .connection .writerStarts,
    .connection .writerQuits, .connection .supervisorStarts, .connection .supervisorStops]

theorem run_of_refused {frame : Bytes} {failure : Failure}
    (refuses : ∀ memory, react memory frame = .refuse failure) : ∃ last told,
      Session.run ⟨false, 0, false⟩ conversation .initial
          (listening ++ arrival frame :: unwinding) = some (last, told) ∧
      last.failure? = some failure := by
  have arrives : Connection.step conversation
      { Connection.State.start conversation [] with
        reader := .receiving, queue := [.acquireMempool] }
      (.received (.ok (.text frame))) = some (_, []) :=
    Connection.step_text_of_refuse rfl rfl (refuses _)
  have refused : Session.step ⟨false, 0, false⟩ conversation ⟨.connected _, false⟩
      (arrival frame) = some (_, _) :=
    Session.step_of_connection rfl rfl arrives rfl
  exact ⟨_, _, Session.run_of_step rfl (Session.run_of_step rfl (Session.run_of_step refused rfl)),
    rfl⟩

/-- A watcher that gets that frame is over with an error of reading that no protocol error
announces. -/
theorem wordy_slot_told_alone : answerOf? wordySlot = none ∧ ∃ last told,
    Session.run ⟨false, 0, false⟩ conversation .initial
        (listening ++ arrival wordySlot :: unwinding) = some (last, told) ∧
      last.failure? = some (.of (.decode (.notWhole "acquireMempool.slot" "'x'"))) :=
  ⟨by decide +kernel, run_of_refused react_wordy_slot⟩

end NodeBridge.MempoolWatcher
