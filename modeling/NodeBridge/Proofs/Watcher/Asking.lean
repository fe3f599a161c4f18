import Mathlib.Data.List.Chain
import NodeBridge.Proofs.Watcher.Reply

/-!
The requests of a mempool watcher. While the watcher listens exactly one request is under way:
it is queued, in the writer's hand, or sent and not yet answered. While a snapshot is being
taken there is none. A snapshot is acquired at the beginning and right after the one before it
was taken, and at no other time.
-/

namespace NodeBridge.MempoolWatcher

open Connection

/-- What tells how far a watcher has got. -/
inductive Mark where
  | asked (request : Request)
  | taken
deriving DecidableEq

/-- What may come right after what: the next snapshot is acquired once the last one was taken,
and a transaction is asked for after any other request. -/
def Mark.Precedes : Mark → Mark → Prop
  | .taken, next => next = .asked .acquireMempool
  | .asked _, next => next = .asked .nextTransaction ∨ next = .taken

def markOf? : Event → Option Mark
  | .called (.ok _) => some .taken
  | _ => none

/-- The requests that were sent and the snapshots that were taken, in their order. -/
def marks (past : List (Turn Snapshot Snapshot)) : List Mark :=
  past.flatMap fun turn =>
    (turn.effects.filterMap Effect.request?).map .asked ++ (markOf? turn.event).toList

/-- The latest mark; the beginning counts as if a snapshot had been taken. -/
def lastMark (past : List (Turn Snapshot Snapshot)) : Mark := (marks past).getLastD .taken

/-- No request is answered twice, when each text is an answer. -/
def AnsweredSingly (past : List (Turn Snapshot Snapshot)) : Prop :=
  AnsweredOnce (fun _ => true) (Frame.carries fun _ => true) past

/-- How the requests and the snapshots of a watcher follow each other. -/
structure Paced (past : List (Turn Snapshot Snapshot)) (state : State Snapshot) : Prop where
  ordered : (Mark.taken :: marks past).IsChain Mark.Precedes
  waits : state.stopped = false → ∀ request ∈ state.unsent,
    (lastMark past).Precedes (.asked request)
  open_ : state.stopped = false → (heard past).length < (sent past).length →
    lastMark past ≠ .taken
  calls : state.reader.isCalling = true → lastMark past ≠ .taken
  fresh : state.reader = .starting → lastMark past = .taken

section

variable {stored : List Point} {past : List (Turn Snapshot Snapshot)}
  {state next : State Snapshot} {event : Event} {effects : List (Effect Snapshot)}
  {turn : Turn Snapshot Snapshot}

theorem marks_snoc : marks (past ++ [turn]) = marks past ++
    ((turn.effects.filterMap Effect.request?).map .asked ++ (markOf? turn.event).toList) := by
  simp [marks]

theorem mark_of_other (other : turn.event ≠ .called (.ok ())) : markOf? turn.event = none := by
  unfold markOf?
  split
  · next called => exact absurd called other
  · rfl

theorem chain_snoc {mark : Mark} (ordered : (Mark.taken :: marks past).IsChain Mark.Precedes)
    (follows : (lastMark past).Precedes mark)
    (grown : marks (past ++ [turn]) = marks past ++ [mark]) :
    (Mark.taken :: marks (past ++ [turn])).IsChain Mark.Precedes := by
  rw [grown, ← List.cons_append, List.isChain_append]
  refine ⟨ordered, List.isChain_singleton mark, ?_⟩
  intro before last after first
  simp only [List.head?_cons, Option.mem_def, Option.some.injEq] at first
  rw [List.getLast?_cons] at last
  cases last
  rw [← first]
  rw [← List.getLastD_eq_getLast?]
  exact follows

/-- The requests that were sent and those to come are one more than the answers. -/
theorem lengths_of_reached (reached : Reached conversation stored past state)
    (running : state.stopped = false) :
    (state.reader = .starting ∧ sent past = [] ∧ state.unsent = []) ∨
      (state.reader ≠ .starting ∧ (sent past).length + state.unsent.length +
        state.reader.due.length = (heard past).length + 1) := by
  rw [length_heard_of_running reached running]
  rcases sent_of_reached reached running with ⟨starting, none, -⟩ | ⟨begun, all⟩
  · simp only [List.append_eq_nil_iff] at none
    exact .inl ⟨starting, none.1.1, none.1.2⟩
  · refine .inr ⟨begun, ?_⟩
    have lengths := congrArg List.length all
    simpa [Nat.add_assoc] using lengths

theorem answered_of_singly (reached : Reached conversation stored past state)
    (once : AnsweredSingly past) : (heard past).length ≤ (sent past).length := by
  have now := once.now
  rw [count_arrivals_of_reached _ reached] at now
  simpa using now

theorem few_of_reached (reached : Reached conversation stored past state)
    (running : state.stopped = false) (once : AnsweredSingly past) :
    state.unsent.length + state.reader.due.length ≤ 1 := by
  have answered := answered_of_singly reached once
  rcases lengths_of_reached reached running with ⟨starting, -, unsent⟩ | ⟨-, lengths⟩
  · simp [starting, unsent, Reader.due]
  · omega

/-- A turn without a mark keeps the order, whatever else it does. -/
theorem paced_of_quiet (paced : Paced past state) (same : marks (past ++ [turn]) = marks past)
    (waits : next.stopped = false → ∀ request ∈ next.unsent,
      (lastMark past).Precedes (.asked request))
    (open_ : next.stopped = false →
      (heard (past ++ [turn])).length < (sent (past ++ [turn])).length →
        lastMark past ≠ .taken)
    (calls : next.reader.isCalling = true → lastMark past ≠ .taken)
    (fresh : next.reader = .starting → state.reader = .starting) :
    Paced (past ++ [turn]) next := by
  have last : lastMark (past ++ [turn]) = lastMark past := by rw [lastMark, same, lastMark]
  refine ⟨same ▸ paced.ordered, ?_, ?_, ?_, ?_⟩
  · rw [last]
    exact waits
  · rw [last]
    exact open_
  · rw [last]
    exact calls
  · rw [last]
    exact fun starting => paced.fresh (fresh starting)

/-- The writer hands over the one request that waits. -/
theorem paced_of_request {request : Request} (paced : Paced past state)
    (follows : (lastMark past).Precedes (.asked request))
    (grown : marks (past ++ [turn]) = marks past ++ [.asked request])
    (empty : next.unsent = []) (begun : next.reader ≠ .starting) :
    Paced (past ++ [turn]) next := by
  have last : lastMark (past ++ [turn]) = .asked request := by simp [lastMark, grown]
  have untaken : lastMark (past ++ [turn]) ≠ .taken := by simp [last]
  exact ⟨chain_snoc paced.ordered follows grown, fun _ => by simp [empty],
    fun _ _ => untaken, fun _ => untaken, fun starting => absurd starting begun⟩

theorem paced_of_others (paced : Paced past turn.state)
    (reached : Reached conversation stored (past ++ [turn]) next)
    (once : AnsweredSingly past) (others : turn.event.isOfReader = false) :
    Paced (past ++ [turn]) next := by
  obtain ⟨before, possible⟩ := reached_snoc reached
  have handling := step_of_handling others possible
  have reader := (step_of_others others possible).1
  have texts : heard (past ++ [turn]) = heard past := by
    apply heard_snoc_of_none
    cases event : turn.event <;> simp_all [Event.isOfReader, Event.receipt?]
  have unmarked : markOf? turn.event = none := by
    cases event : turn.event <;> simp_all [Event.isOfReader, markOf?]
  have grown := @marks_snoc past turn
  rw [unmarked, Option.toList_none, List.append_nil] at grown
  cases stopped : turn.state.stopped with
  | true =>
      have still := stopped_of_step stopped possible
      have none : turn.effects.filterMap Effect.request? = [] := by
        rcases handling.sends_of_stopped stopped with none | ⟨opening, starting, sends⟩
        · exact none
        · rw [sends, opening_of_reached before starting]
          rfl
      refine paced_of_quiet paced (by rw [grown, none]; exact List.append_nil _)
        (by simp [still]) (by simp [still]) ?_ ?_
      · rw [reader]
        exact paced.calls
      · rw [reader]
        exact id
  | false =>
      have kept := handling.conserves stopped
      have few := few_of_reached before stopped once
      cases requests : turn.effects.filterMap Effect.request? with
      | nil =>
          rw [requests, List.nil_append] at kept
          refine paced_of_quiet paced (by rw [grown, requests]; exact List.append_nil _) ?_ ?_ ?_ ?_
          · rw [kept]
            exact fun _ => paced.waits stopped
          · rw [texts, sent_snoc, requests, List.append_nil]
            exact fun _ => paced.open_ stopped
          · rw [reader]
            exact paced.calls
          · rw [reader]
            exact id
      | cons request rest =>
          -- No more than one request waits, so this one is all that there is to send.
          rw [requests] at kept
          have sizes := congrArg List.length kept
          simp only [List.length_append, List.length_cons] at sizes
          have alone : rest = [] := List.eq_nil_of_length_eq_zero (by omega)
          have empty : next.unsent = [] := List.eq_nil_of_length_eq_zero (by omega)
          refine paced_of_request paced (paced.waits stopped request ?_)
            (by rw [grown, requests, alone]; rfl) empty ?_
          · rw [← kept]
            simp
          · rw [reader]
            intro starting
            rcases lengths_of_reached before stopped with ⟨-, -, unsent⟩ | ⟨begun, -⟩
            · rw [unsent] at kept
              cases kept
            · exact begun starting

/-! What the reader adds to the queue. -/

/-- A reader that makes no request for later puts what an answer leads to into the queue. -/
theorem unsent_of_answer (reached : Reached conversation stored (past ++ [turn]) next)
    (ofReader : turn.event.isOfReader = true) (going : turn.event ≠ .readerStarts)
    (running : next.stopped = false) :
    ∃ now, next.unsent = turn.state.unsent ++ now ∧ now ++ next.reader.due =
      turn.state.reader.due ++ (turn.text?.bind answerOf?).toList.map Answer.next := by
  rw [← demand_of_answer going]
  exact unsent_of_reader rfl ofReader (reached_snoc reached).2 running

theorem going_of_receiving (reached : Reached conversation stored (past ++ [turn]) next)
    (receiving : turn.state.reader = .receiving) : turn.event ≠ .readerStarts := by
  intro begins
  obtain ⟨-, possible⟩ := reached_snoc reached
  rw [begins] at possible
  obtain ⟨starting, -⟩ := step_starts possible
  simp [receiving] at starting

/-- When an answer arrives, nothing is to be sent and the latest mark is a request. -/
theorem awaited_of_answer {answer : Answer} (paced : Paced past turn.state)
    (reached : Reached conversation stored (past ++ [turn]) next)
    (once : AnsweredSingly (past ++ [turn])) (running : turn.state.stopped = false)
    (receiving : turn.state.reader = .receiving)
    (silent : turn.effects.filterMap Effect.request? = [])
    (reads : turn.text?.bind answerOf? = some answer) :
    turn.state.unsent = [] ∧ ∃ request, lastMark past = .asked request := by
  have answered := answered_of_singly reached once
  rw [heard_snoc_of_reached reached, sent_snoc, silent, List.append_nil] at answered
  have one : turn.text?.toList.length = 1 := by
    cases text : turn.text? with
    | none => simp [text] at reads
    | some frame => rfl
  rw [List.length_append, one] at answered
  rcases lengths_of_reached (reached_snoc reached).1 running with ⟨starting, -⟩ | ⟨-, lengths⟩
  · rw [receiving] at starting
    cases starting
  · refine ⟨List.eq_nil_of_length_eq_zero (by omega), ?_⟩
    have untaken := paced.open_ running (by omega)
    cases last : lastMark past with
    | asked request => exact ⟨request, rfl⟩
    | taken => exact absurd last untaken

/-- While a snapshot is being taken, nothing is to be sent and every request is answered. -/
theorem idle_of_calling {memory : Snapshot} (reached : Reached conversation stored past state)
    (once : AnsweredSingly past) (running : state.stopped = false)
    (calling : state.reader = .calling none memory [.acquireMempool]) :
    state.unsent = [] ∧ (sent past).length ≤ (heard past).length := by
  have answered := answered_of_singly reached once
  have due : state.reader.due.length = 1 := by rw [calling]; rfl
  rcases lengths_of_reached reached running with ⟨starting, -⟩ | ⟨-, lengths⟩
  · rw [calling] at starting
    cases starting
  · exact ⟨List.eq_nil_of_length_eq_zero (by omega), by omega⟩

/-! What the turns of the reader do to the order. -/

theorem paced_of_rest (paced : Paced past turn.state)
    (reached : Reached conversation stored (past ++ [turn]) next)
    (ofReader : turn.event.isOfReader = true) (same : marks (past ++ [turn]) = marks past)
    (gone : sent (past ++ [turn]) = sent past)
    (reader : next.reader = turn.state.reader ∨
      turn.state.reader = .receiving ∧ next.reader = .ponging ∨
      turn.state.reader = .ponging ∧ next.reader = .receiving)
    (silent : turn.text? = none) (going : turn.event ≠ .readerStarts) :
    Paced (past ++ [turn]) next := by
  have earlier (running : next.stopped = false) :=
    running_of_step running (reached_snoc reached).2
  have phases : next.reader.due = turn.state.reader.due ∧
      next.reader.isCalling = turn.state.reader.isCalling ∧
      (next.reader = .starting → turn.state.reader = .starting) := by
    rcases reader with same | ⟨receiving, ponging⟩ | ⟨ponging, receiving⟩
    · rw [same]
      exact ⟨rfl, rfl, id⟩
    · simp [receiving, ponging, Reader.due, Reader.isCalling]
    · simp [receiving, ponging, Reader.due, Reader.isCalling]
  refine paced_of_quiet paced same ?_ ?_ ?_ phases.2.2
  · intro running
    obtain ⟨now, unsent, owed⟩ := unsent_of_answer reached ofReader going running
    have none : now = [] := by simpa [silent, phases.1] using owed
    rw [unsent, none, List.append_nil]
    exact paced.waits (earlier running)
  · intro running
    rw [heard_snoc_of_reached reached, silent, gone, Option.toList_none, List.append_nil]
    exact paced.open_ (earlier running)
  · rw [phases.2.1]
    exact paced.calls

theorem paced_of_start (paced : Paced past turn.state)
    (reached : Reached conversation stored (past ++ [turn]) next)
    (same : marks (past ++ [turn]) = marks past) (gone : sent (past ++ [turn]) = sent past)
    (starting : turn.state.reader = .starting) (begins : turn.event = .readerStarts)
    (reader : next.reader = .receiving) : Paced (past ++ [turn]) next := by
  obtain ⟨before, possible⟩ := reached_snoc reached
  have nothing (running : next.stopped = false) : sent past = [] ∧ turn.state.unsent = [] := by
    rcases lengths_of_reached before (running_of_step running possible) with
      ⟨-, both⟩ | ⟨begun, -⟩
    · exact both
    · exact absurd starting begun
  refine paced_of_quiet paced same ?_ ?_ (by simp [reader, Reader.isCalling])
    (fun _ => starting)
  · intro running request member
    obtain ⟨now, unsent, owed⟩ :=
      unsent_of_reader rfl (by rw [begins]; rfl) possible running
    have first : now = [.acquireMempool] := by
      simpa [Turn.demand, begins, starting, reader, Reader.due, conversation] using owed
    rw [unsent, first, (nothing running).2] at member
    rw [paced.fresh starting, List.mem_singleton.mp member]
    rfl
  · intro running
    simp [gone, (nothing running).1]

theorem paced_of_note {answer : Answer} {request : Request} (paced : Paced past turn.state)
    (reached : Reached conversation stored (past ++ [turn]) next)
    (ofReader : turn.event.isOfReader = true) (same : marks (past ++ [turn]) = marks past)
    (receiving : turn.state.reader = .receiving) (empty : turn.state.unsent = [])
    (last : lastMark past = .asked request) (reads : turn.text?.bind answerOf? = some answer)
    (follows : answer.next = .nextTransaction) (reader : next.reader = .receiving) :
    Paced (past ++ [turn]) next := by
  refine paced_of_quiet paced same ?_ (by simp [last]) (by simp [last]) (by simp [reader])
  intro running other member
  obtain ⟨now, unsent, owed⟩ :=
    unsent_of_answer reached ofReader (going_of_receiving reached receiving) running
  have one : now = [.nextTransaction] := by
    simpa [reads, receiving, reader, Reader.due, follows] using owed
  rw [unsent, one, empty] at member
  rw [last, List.mem_singleton.mp member]
  exact .inl rfl

theorem paced_of_drain {memory : Snapshot} {request : Request} (paced : Paced past turn.state)
    (reached : Reached conversation stored (past ++ [turn]) next)
    (ofReader : turn.event.isOfReader = true) (same : marks (past ++ [turn]) = marks past)
    (receiving : turn.state.reader = .receiving) (empty : turn.state.unsent = [])
    (last : lastMark past = .asked request)
    (reads : turn.text?.bind answerOf? = some .drained)
    (reader : next.reader = .calling none memory [.acquireMempool]) :
    Paced (past ++ [turn]) next := by
  refine paced_of_quiet paced same ?_ (by simp [last]) (by simp [last]) (by simp [reader])
  intro running other member
  obtain ⟨now, unsent, owed⟩ :=
    unsent_of_answer reached ofReader (going_of_receiving reached receiving) running
  have none : now = [] := by
    simpa [reads, receiving, reader, Reader.due, Answer.next] using owed
  rw [unsent, none, empty] at member
  cases member

theorem paced_of_taking {memory : Snapshot} (paced : Paced past turn.state)
    (reached : Reached conversation stored (past ++ [turn]) next) (once : AnsweredSingly past)
    (ofReader : turn.event.isOfReader = true)
    (grown : marks (past ++ [turn]) = marks past ++ [.taken])
    (gone : sent (past ++ [turn]) = sent past)
    (calling : turn.state.reader = .calling none memory [.acquireMempool])
    (going : turn.event ≠ .readerStarts) (silent : turn.text? = none)
    (reader : next.reader = .receiving) : Paced (past ++ [turn]) next := by
  obtain ⟨before, possible⟩ := reached_snoc reached
  have idle (running : next.stopped = false) :=
    idle_of_calling before once (running_of_step running possible) calling
  have last : lastMark (past ++ [turn]) = .taken := by simp [lastMark, grown]
  have follows : (lastMark past).Precedes .taken := by
    have untaken := paced.calls (by rw [calling]; rfl)
    cases latest : lastMark past with
    | asked request => exact .inr rfl
    | taken => exact absurd latest untaken
  refine ⟨chain_snoc paced.ordered follows grown, ?_, ?_, ?_, fun _ => last⟩
  · intro running request member
    obtain ⟨now, unsent, owed⟩ := unsent_of_answer reached ofReader going running
    have one : now = [.acquireMempool] := by
      simpa [silent, calling, reader, Reader.due] using owed
    rw [unsent, one, (idle running).1] at member
    rw [last, List.mem_singleton.mp member]
    rfl
  · intro running
    rw [heard_snoc_of_reached reached, silent, gone, Option.toList_none, List.append_nil]
    exact fun open_ => absurd (idle running).2 (by omega)
  · simp [reader, Reader.isCalling]

theorem paced_of_end (paced : Paced past state)
    (reached : Reached conversation stored (past ++ [turn]) next)
    (same : marks (past ++ [turn]) = marks past) (done : next.reader.isDone = true) :
    Paced (past ++ [turn]) next := by
  have stopped : next.stopped ≠ false := by
    intro running
    rw [listening_of_running (fun _ => rfl) reached running] at done
    cases done
  refine paced_of_quiet paced same (fun running => absurd running stopped)
    (fun running => absurd running stopped) ?_ ?_
  · simp [calm_of_done done]
  · intro starting
    rw [starting] at done
    cases done

theorem paced_of_reader (paced : Paced past turn.state)
    (reached : Reached conversation stored (past ++ [turn]) next)
    (once : AnsweredSingly (past ++ [turn])) (ofReader : turn.event.isOfReader = true) :
    Paced (past ++ [turn]) next := by
  have silent : turn.effects.filterMap Effect.request? = [] := by
    obtain ⟨_, asking⟩ := step_of_asking ofReader (reached_snoc reached).2
    exact asking.sends
  have gone : sent (past ++ [turn]) = sent past := by
    rw [sent_snoc, silent, List.append_nil]
  have grown : marks (past ++ [turn]) = marks past ++ (markOf? turn.event).toList := by
    rw [marks_snoc, silent]
    rfl
  have same (other : turn.event ≠ .called (.ok ())) : marks (past ++ [turn]) = marks past := by
    rw [grown, mark_of_other other]
    exact List.append_nil _
  cases progress_of_reached reached with
  | rests reader kept untexted going other =>
      exact paced_of_rest paced reached ofReader (same other) gone reader untexted going
  | starts starting begins reader =>
      exact paced_of_start paced reached (same (by simp [begins])) gone starting begins reader
  | notes answer memory receiving running other reads responds reader =>
      obtain ⟨empty, request, last⟩ :=
        awaited_of_answer paced reached once running receiving silent reads
      have follows : answer.next = .nextTransaction := by
        cases answer <;> simp_all [respond, Answer.next]
      exact paced_of_note paced reached ofReader (same other) receiving empty last reads follows
        reader
  | drains receiving running other reads reader =>
      obtain ⟨empty, request, last⟩ :=
        awaited_of_answer paced reached once running receiving silent reads
      exact paced_of_drain paced reached ofReader (same other) receiving empty last reads reader
  | takes memory calling taken reader kept untexted =>
      refine paced_of_taking paced reached once.earlier ofReader ?_ gone calling
        (by simp [taken]) untexted reader
      rw [grown, taken]
      rfl
  | ends begun done unread other => exact paced_of_end paced reached (same other) done

theorem paced_of_reached (reached : Reached conversation stored past state)
    (once : AnsweredSingly past) : Paced past state := by
  induction reached with
  | start =>
      refine ⟨List.isChain_singleton _, ?_, by simp [sent], ?_, fun _ => rfl⟩
      · simp [State.start, State.unsent, Writer.held, conversation]
      · simp [State.start, Reader.isCalling]
  | @step past state next event effects reached possible induction =>
      have paced := induction once.earlier
      cases ofReader : event.isOfReader with
      | true => exact paced_of_reader paced (reached.step possible) once ofReader
      | false => exact paced_of_others paced (reached.step possible) once.earlier ofReader

/-- If the node answers no request twice, one request at most is under way in every run that
is not stopped, exactly one while the watcher listens, and the writer is there to send it. A
snapshot is acquired at the beginning and right after each one that was taken, and at no other
time. -/
theorem one_request_under_way (reached : Reached conversation stored past state)
    (once : AnsweredSingly past) :
    (state.stopped = false →
      state.writer ≠ .ended ∧
        state.queue.length + state.writer.held.length +
          unanswered (fun _ => true) (Frame.carries fun _ => true) past ≤ 1 ∧
        (state.reader = .receiving → state.queue.length + state.writer.held.length +
          unanswered (fun _ => true) (Frame.carries fun _ => true) past = 1)) ∧
      (Mark.taken :: marks past).IsChain Mark.Precedes := by
  refine ⟨fun running => ?_, (paced_of_reached reached once).ordered⟩
  have answered := answered_of_singly reached once
  have count : unanswered (fun _ => true) (Frame.carries fun _ => true) past =
      (sent past).length - (heard past).length := by
    rw [unanswered, count_arrivals_of_reached _ reached]
    simp
  have unsent : state.unsent.length = state.writer.held.length + state.queue.length := by
    rw [State.unsent, List.length_append]
  refine ⟨writer_of_running reached running, ?_⟩
  rcases lengths_of_reached reached running with ⟨starting, none, empty⟩ | ⟨-, lengths⟩
  · rw [empty] at unsent
    simp only [List.length_nil] at unsent
    refine ⟨?_, fun receiving => ?_⟩
    · rw [count, none]
      simp only [List.length_nil]
      omega
    · rw [starting] at receiving
      cases receiving
  · refine ⟨by omega, fun receiving => ?_⟩
    have due : state.reader.due.length = 0 := by rw [receiving]; rfl
    omega

end

/-! Once the first snapshot is acquired, its first transaction is to be asked for. -/

theorem run_of_slot {frame : Bytes} {slot : Int}
    (acquires : answerOf? frame = some (.acquired slot)) :
    ∃ past state, Reached conversation [] past state ∧ AnsweredSingly past ∧
      state.stopped = false ∧ state.reader = .receiving ∧ arrivals past = [.text frame] ∧
      state.queue = [.nextTransaction] ∧ marks past = [.asked .acquireMempool] := by
  have begins : Reached conversation [] [] _ := .start
  have waits := begins.step (show step _ _ .writerStarts = some (_, _) from rfl)
  have asks := waits.step (show step _ _ .readerStarts = some (_, _) from rfl)
  have takes := asks.step (show step _ _ .writerTakes = some (_, _) from rfl)
  have hands := takes.step (show step _ _ .writerResumes = some (_, _) from rfl)
  have acquired := hands.step (step_text_of_proceed rfl rfl (react_of_answer acquires))
  refine ⟨_, _, acquired, ?_, rfl, rfl, rfl, rfl, rfl⟩
  exact answered_once_snoc (answered_once_of_none nofun) le_rfl

theorem one_request_under_way_of_slot :
    ∃ past state, Reached conversation [] past state ∧ AnsweredSingly past ∧
      state.stopped = false ∧ state.reader = .receiving ∧ arrivals past = [.text slotSeven] ∧
      state.queue = [.nextTransaction] ∧ marks past = [.asked .acquireMempool] ∧
      state.queue.length + state.writer.held.length +
        unanswered (fun _ => true) (Frame.carries fun _ => true) past = 1 := by
  obtain ⟨past, state, reached, once, running, receiving, arrived, queued, asked⟩ :=
    run_of_slot answer_of_slot_seven
  exact ⟨past, state, reached, once, running, receiving, arrived, queued, asked,
    ((one_request_under_way reached once).1 running).2.2 receiving⟩

end NodeBridge.MempoolWatcher
