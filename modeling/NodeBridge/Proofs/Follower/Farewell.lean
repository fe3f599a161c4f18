import NodeBridge.Proofs.Connection.Failures
import NodeBridge.Proofs.Follower.Cadence
import NodeBridge.Proofs.Follower.Pipeline

/-!
What a chain follower still sends after the node's close frame. The frame makes a request for a
block like any other, and the connection is stopped only when the last point was saved. Until
then the writer goes on, and a request that fails counts as the failure of the connection.
-/

namespace NodeBridge.ChainFollower

open Connection

section

variable {options : Options} {stored : List Point}
  {past before after : List (Turn Memory Bytes)} {state next last : State Memory}
  {turn : Turn Memory Bytes} {effects : List (Effect Bytes)}

theorem done_of_close
    (possible : step (conversation options) state (.received (.ok .close)) = some (next, effects)) :
    next.reader.isDone = true := by
  cases (step_received possible).2 with
  | ends memory ends which done => exact done
  | breaks goes | passes goes | proceeds content memory requests goes
  | delivers content delivery save memory requests goes | refuses content failure goes => cases goes

/-- A close frame stops the connection, unless a last point is to be saved first. -/
theorem stopped_of_close
    (possible : step (conversation options) state (.received (.ok .close)) = some (next, effects)) :
    next.stopped = (state.stopped ||
      ((conversation options).parting ((conversation options).count state.memory)).isNone) := by
  simp only [step] at possible
  split at possible
  · cases stopped : state.stopped <;>
      cases parting : (conversation options).parting
        ((conversation options).count state.memory) <;>
      simp only [receive, stopped, Bool.false_eq_true, if_true, if_false, handle, part, memory_put,
        parting] at possible <;>
      cases possible <;>
      simp [State.endReader, State.put]
  · cases possible

/-- A follower goes on after a close frame as long as the point of one of its last frames is
saved. -/
theorem running_iff_of_close (reached : Reached (conversation options) stored before state)
    (possible : step (conversation options) state (.received (.ok .close)) = some (next, effects)) :
    next.stopped = false ↔
      state.stopped = false ∧ ∃ point, LatestPoint ((taken before).rtake 3) point := by
  have receiving := (step_received possible).1
  have recent : ((handed before).reverse.take recentFrames) =
      ((taken before).rtake 3).reverse := by
    rw [(settled_of_receiving reached receiving).1, List.rtake_eq_reverse_take_reverse,
      List.reverse_reverse]
    rfl
  rw [stopped_of_close possible, parting_of_receiving reached receiving (.inr rfl), recent,
    Bool.or_eq_false_iff, Option.isNone_eq_false_iff, Option.isSome_iff_exists]
  simp only [latest_point_iff]

/-- There are requests in the queue after a close frame, that of the frame itself or others that
have filled the queue. -/
theorem queued_of_close (reached : Reached (conversation options) stored before state)
    (possible : step (conversation options) state (.received (.ok .close)) = some (next, effects))
    (running : next.stopped = false) : ∃ front, next.queue = front ++ [.nextBlock] := by
  have before := running_of_step running possible
  obtain ⟨-, -, queue⟩ := asked_of_reader reached possible rfl running
  have filled : next.queue ≠ [] := by
    have arrival : Turn.arrival? (⟨state, .received (.ok .close), effects⟩ : Turn Memory Bytes) =
        some .close := by
      simp [Turn.arrival?, before]
    rw [queue, arrival]
    simp only [Option.toList_some, List.map_cons, List.map_nil, Conversation.enqueue,
      List.foldl_cons, List.foldl_nil, Conversation.put]
    split
    · next full =>
        intro none
        simp [none, capacity] at full
    · simp
  have last := (pumping_of_reached (reached.step possible)).blocks _ (List.getLast_mem filled)
  exact ⟨next.queue.dropLast, by rw [← last, List.dropLast_append_getLast filled]⟩

/-- As long as a close frame leaves the connection running, all that is unsent may still be sent,
and the last of it may fail the connection. -/
theorem reached_failed_after_close
    (reached : Reached (conversation options) stored (before ++ [turn]) next)
    (closes : turn.event = .received (.ok .close)) (running : next.stopped = false)
    (failure : Failure) :
    ∃ after last, Reached (conversation options) stored (before ++ turn :: after) last ∧
      sent after = next.unsent ∧ .nextBlock ∈ sent after ∧
        last.failure = some (Duty.writeNextBlock.failed failure) := by
  obtain ⟨earlier, possible⟩ := reached_snoc reached
  rw [closes] at possible
  obtain ⟨front, queued⟩ := queued_of_close earlier possible running
  obtain ⟨after, last, later, all, failed⟩ :=
    reached_failed_request reached running queued failure
  refine ⟨after, last, by rw [List.append_cons]; exact later, all, ?_, ?_⟩
  · rw [all, State.unsent, queued]
    simp
  · rw [failed, unfailing_of_running reached running]
    rfl

/-- The connection was stopped, and no block was asked for in the turns since. -/
def Hushed (after : List (Turn Memory Bytes)) (state : State Memory) : Prop :=
  state.stopped = true ∧ (sent after).countP isBlockRequest = 0

theorem hushed_snoc (reached : Reached (conversation options) stored past turn.state)
    (hushed : Hushed after turn.state)
    (possible : step (conversation options) turn.state turn.event = some (next, turn.effects)) :
    Hushed (after ++ [turn]) next := by
  obtain ⟨stopped, none⟩ := hushed
  refine ⟨stopped_of_step stopped possible, ?_⟩
  rw [sent_snoc, List.countP_append, none, Nat.zero_add]
  cases ofReader : turn.event.isOfReader with
  | true =>
      obtain ⟨now, asking⟩ := step_of_asking ofReader possible
      rw [asking.sends]
      rfl
  | false => exact no_block_of_stopped reached (step_of_handling ofReader possible) stopped

theorem no_block_after_stop (reached : Reached (conversation options) stored past state)
    (stopped : state.stopped = true)
    (later : Reached (conversation options) stored (past ++ after) last) :
    (sent after).countP isBlockRequest = 0 := by
  have hushed : Hushed after last := holds_later reached ⟨stopped, rfl⟩ hushed_snoc later
  exact hushed.2

theorem unsent_bounded (reached : Reached (conversation options) stored past state) :
    state.unsent.length ≤ capacity + 1 := by
  have bounded := (pumping_of_reached reached).bounded
  have held : state.writer.held.length ≤ 1 := by
    rcases state.writer with (_ | opening) | _ | request | request | _ <;> simp [Writer.held]
  rw [State.unsent, List.length_append]
  omega

/-- All that is sent after a stop is the handshake, if nothing was sent before. -/
theorem sent_after_stop (reached : Reached (conversation options) stored past state)
    (stopped : state.stopped = true)
    (later : Reached (conversation options) stored (past ++ after) last) :
    sent after = [] ∨
      sent past = [] ∧ sent after = [Handshake.request stored options.points] := by
  have none := no_block_after_stop reached stopped later
  have whole := sent_append past after
  rcases (pumping_of_reached later).writer with ⟨-, nothing⟩ | ⟨-, -, count, all⟩
  · rw [whole, List.append_eq_nil_iff] at nothing
    exact .inl nothing.2
  · rw [whole] at all
    cases earlier : sent past with
    | nil =>
        rw [earlier, List.nil_append] at all
        have zero : count = 0 := by
          rw [all] at none
          simpa [Handshake.request, isBlockRequest, List.countP_replicate] using none
        exact .inr ⟨rfl, by rw [all, zero, List.replicate_zero]⟩
    | cons request rest =>
        rw [earlier, List.cons_append, List.cons.injEq] at all
        have blocks : ∀ request ∈ sent after, request = .nextBlock := by
          intro request member
          apply List.eq_of_mem_replicate
          rw [← all.2]
          exact List.mem_append_right rest member
        rw [count_of_blocks blocks] at none
        exact .inl (List.length_eq_zero_iff.mp none)

/-- What is sent after the node's close frame. A follower with a last point to save goes on: all
that is unsent by then may still be sent, in order and with the request that the close frame made,
and such a request may fail the connection. A follower that has no point to save or was stopped
already sends nothing more, except for a handshake that was not yet sent. -/
theorem requests_after_close
    (reached : Reached (conversation options) stored (before ++ [turn]) next)
    (closes : turn.event = .received (.ok .close)) :
    (next.stopped = false ↔ turn.state.stopped = false ∧
        ∃ point, LatestPoint ((taken before).rtake 3) point) ∧
      (∀ after last, Reached (conversation options) stored (before ++ turn :: after) last →
        sent after <+: next.unsent ∧ (sent after).length ≤ capacity + 1 ∧
          (next.stopped = true → sent after = [] ∨
            sent before = [] ∧ sent after = [Handshake.request stored options.points])) ∧
      (next.stopped = false → ∀ failure, ∃ after last,
        Reached (conversation options) stored (before ++ turn :: after) last ∧
          sent after = next.unsent ∧ .nextBlock ∈ sent after ∧
            last.failure = some (Duty.writeNextBlock.failed failure)) := by
  obtain ⟨earlier, possible⟩ := reached_snoc reached
  rw [closes] at possible
  refine ⟨running_iff_of_close earlier possible, ?_,
    fun running => reached_failed_after_close reached closes running⟩
  intro after last later
  rw [List.append_cons] at later
  have kept := sent_after_done reached (done_of_close possible) later
  refine ⟨kept, kept.length_le.trans (unsent_bounded reached), ?_⟩
  intro stopped
  have silent : sent (before ++ [turn]) = sent before := by
    obtain ⟨now, asking⟩ := step_of_asking rfl possible
    rw [sent_snoc, asking.sends, List.append_nil]
  rw [← silent]
  exact sent_after_stop reached stopped later

end

/-- A run in which a close frame comes after a text with a point. -/
theorem reached_close_after_step_back :
    ∃ before turn next, Reached (conversation ⟨1, 100, 0, []⟩) [] (before ++ [turn]) next ∧
      turn.event = .received (.ok .close) ∧ next.stopped = false := by
  obtain ⟨start, state, listening, receiving, running, silent, nothing, -, -⟩ :=
    reached_listening ⟨1, 100, 0, []⟩ []
  obtain ⟨more, later, taking, again, goes, -, calls, -, -⟩ :=
    reached_taking (by decide) stepBack listening receiving running (by rw [silent]; decide)
  have calls : handed (start ++ more) = [stepBack] := by rw [calls, nothing]; rfl
  have parting : (conversation ⟨1, 100, 0, []⟩).parting
      ((conversation ⟨1, 100, 0, []⟩).count later.memory) =
        some (.structural { id := "", slot := 5, height := none }) := by
    rw [parting_of_receiving taking again (.inr rfl), calls]
    simp [firstPoint?, recentFrames, frame_point_step_back]
  obtain ⟨next, closing⟩ := reached_close_of_parting taking again goes parting
  refine ⟨_, _, next, closing, rfl, ?_⟩
  rw [stopped_of_close (reached_snoc closing).2, goes, parting]
  rfl

theorem requests_after_close_of_step_back :
    ∃ before turn next after last,
      Reached (conversation ⟨1, 100, 0, []⟩) [] (before ++ [turn]) next ∧
        turn.event = .received (.ok .close) ∧
        Reached (conversation ⟨1, 100, 0, []⟩) [] (before ++ turn :: after) last ∧
        sent after = next.unsent ∧ (sent after).length ≤ capacity + 1 := by
  obtain ⟨before, turn, next, reached, closes, running⟩ := reached_close_after_step_back
  obtain ⟨-, bounded, fails⟩ := requests_after_close reached closes
  obtain ⟨after, last, later, all, -, -⟩ := fails running (.of (.reported "send failed"))
  exact ⟨before, turn, next, after, last, reached, closes, later, all,
    (bounded after last later).2.1⟩

/-- A follower asks for a block after the node's close frame, and that fails the connection. -/
theorem block_asked_after_close :
    ∃ before turn after last,
      Reached (conversation ⟨1, 100, 0, []⟩) [] (before ++ turn :: after) last ∧
        turn.event = .received (.ok .close) ∧ .nextBlock ∈ sent after ∧
        last.failure =
          some (Duty.writeNextBlock.failed (.of (.reported "send failed"))) := by
  obtain ⟨before, turn, next, reached, closes, running⟩ := reached_close_after_step_back
  obtain ⟨after, last, later, -, asked, failed⟩ :=
    reached_failed_after_close reached closes running (.of (.reported "send failed"))
  exact ⟨before, turn, after, last, later, closes, asked, failed⟩

end NodeBridge.ChainFollower
