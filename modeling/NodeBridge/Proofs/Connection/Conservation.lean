import NodeBridge.Proofs.Connection.Requests

/-!
What every run of a connection keeps. A connection that was stopped stays so, and until then
its writer goes on. The texts that are heard are those of the frames that arrive. Without a
limit on the queue, the requests that were sent, followed by those that are not yet sent, are
all that were asked for, in the same order. Once the reader listens no more, nothing is sent but
what was unsent by then.
-/

namespace NodeBridge.Connection

section

variable {Memory Delivery : Type}
  {conversation : Conversation Memory Delivery} {stored : List Point}
  {past : List (Turn Memory Delivery)} {state next : State Memory} {event : Event}
  {effects : List (Effect Delivery)} {turn : Turn Memory Delivery}

/-- A reader whose reactions make no requests never has one to make later. -/
theorem due_of_reached
    (silent : ∀ memory content, (conversation.react memory content).requests = [])
    (reached : Reached conversation stored past state) : state.reader.due = [] := by
  induction reached with
  | start => rfl
  | @step past state next event effects reached possible induction =>
      cases event with
      | supervisorStarts | supervisorStops | stopFollowed | closerWakes | closed outcome |
        writerStarts | writerTakes | writerResumes | writerQuits | sent outcome =>
          rw [(step_of_others rfl possible).1, induction]
      | readerStarts =>
          obtain ⟨-, -, rfl⟩ := step_starts possible
          rfl
      | ponged outcome =>
          obtain ⟨-, -, rfl | ⟨failure, rfl⟩⟩ := step_ponged possible <;> rfl
      | called outcome =>
          obtain ⟨save, memory, requests, calling, ends⟩ := step_called possible
          rcases ends with ⟨point, -, -, -, rfl⟩ | ⟨-, -, -, rfl⟩ | ⟨failure, -, -, rfl⟩
          · simpa [calling, Reader.due] using induction
          · rfl
          · rfl
      | saved outcome =>
          obtain ⟨-, ends⟩ := step_saved possible
          rcases ends with ⟨memory, requests, -, rfl | ⟨failure, rfl⟩⟩ | ⟨context, -, finished⟩
          · rfl
          · rfl
          · rw [finished]
            rfl
      | received outcome =>
          cases (step_received possible).2 with
          | ends memory ends which done =>
              cases reader : next.reader <;> simp_all [Reader.isDone, Reader.due]
          | breaks goes other finished | refuses content failure goes text reacts finished =>
              rw [finished]
              rfl
          | passes goes other reader =>
              rcases reader with receiving | ponging
              · rw [receiving]
                rfl
              · rw [ponging]
                rfl
          | proceeds content memory requests goes text reacts reader =>
              rw [reader]
              rfl
          | delivers content delivery save memory requests goes text reacts reader =>
              have none := silent (conversation.count state.memory) content
              rw [reacts] at none
              rw [reader]
              exact none

/-! Once a connection is stopped it stays so. -/

theorem stopped_of_step (stopped : state.stopped = true)
    (possible : step conversation state event = some (next, effects)) :
    next.stopped = true := by
  cases ofReader : event.isOfReader with
  | true =>
      obtain ⟨now, asking⟩ := step_of_asking ofReader possible
      exact asking.untouched.stop stopped
  | false =>
      cases event with
      | readerStarts | received outcome | ponged outcome | called outcome | saved outcome =>
          cases ofReader
      | supervisorStarts | supervisorStops | stopFollowed | closerWakes | closed outcome |
        writerStarts | writerTakes | writerResumes | writerQuits | sent outcome =>
          simp only [step] at possible
          split at possible <;> grind [State.fail]

theorem running_of_step (running : next.stopped = false)
    (possible : step conversation state event = some (next, effects)) :
    state.stopped = false := by
  cases stopped : state.stopped with
  | false => rfl
  | true => rw [stopped_of_step stopped possible] at running; cases running

theorem closer_of_step (waiting : state.closer = .waiting)
    (possible : step conversation state event = some (next, effects)) :
    next.closer = .waiting ∨ state.stopped = true := by
  cases ofReader : event.isOfReader with
  | true =>
      obtain ⟨now, asking⟩ := step_of_asking ofReader possible
      exact .inl (asking.untouched.closer.trans waiting)
  | false =>
      cases event with
      | readerStarts | received outcome | ponged outcome | called outcome | saved outcome =>
          cases ofReader
      | supervisorStarts | supervisorStops | stopFollowed | closerWakes | closed outcome |
        writerStarts | writerTakes | writerResumes | writerQuits | sent outcome =>
          simp only [step] at possible
          split at possible <;> grind [State.fail]

/-- The line is closed only after the connection was stopped. -/
theorem stopped_of_closing (reached : Reached conversation stored past state)
    (closing : state.isClosing = true) : state.stopped = true := by
  induction reached with
  | start => simp [State.start, State.isClosing] at closing
  | @step past state next event effects reached possible induction =>
      cases before : state.isClosing with
      | true => exact stopped_of_step (induction before) possible
      | false =>
          have waiting : state.closer = .waiting := by simpa [State.isClosing] using before
          rcases closer_of_step waiting possible with same | stopped
          · simp [State.isClosing, same] at closing
          · exact stopped_of_step stopped possible

/-- The writer of a connection that is not stopped goes on. -/
theorem writer_of_running (reached : Reached conversation stored past state)
    (running : state.stopped = false) : state.writer ≠ .ended := by
  induction reached with
  | start => simp [State.start]
  | @step past state next event effects reached possible induction =>
      have before := running_of_step running possible
      cases ofReader : event.isOfReader with
      | true =>
          obtain ⟨now, asking⟩ := step_of_asking ofReader possible
          rw [asking.untouched.writer]
          exact induction before
      | false =>
          cases step_of_handling ofReader possible with
          | opens opening starting begun =>
              rcases begun with waiting | ⟨request, sending⟩ <;> simp [*]
          | takes request waiting holding => simp [holding]
          | hands request running holding sending => simp [sending]
          | drops request stopped => simp [before] at stopped
          | rests writer =>
              rcases writer with same | ⟨-, waiting | ⟨-, closing | stopped⟩⟩
              · rw [same]; exact induction before
              · simp [waiting]
              · rw [stopped_of_closing reached closing] at before; cases before
              · rw [stopped] at running; cases running

/-- A writer that has not begun still has its opening. -/
theorem opening_of_reached {opening : Option Request}
    (reached : Reached conversation stored past state)
    (starting : state.writer = .starting opening) : opening = conversation.opening stored := by
  induction reached with
  | start => exact (Writer.starting.inj starting).symm
  | @step past state next event effects reached possible induction =>
      cases ofReader : event.isOfReader with
      | true =>
          obtain ⟨now, asking⟩ := step_of_asking ofReader possible
          exact induction (asking.untouched.writer.symm.trans starting)
      | false =>
          cases step_of_handling ofReader possible with
          | opens opening_ begins begun =>
              rcases begun with waiting | ⟨request, sending⟩
              · cases waiting.symm.trans starting
              · cases sending.symm.trans starting
          | takes request waiting next => cases next.symm.trans starting
          | hands request running holding next => cases next.symm.trans starting
          | drops request stopped holding next => cases next.symm.trans starting
          | rests writer =>
              rcases writer with same | ⟨-, waiting | ⟨ended, -⟩⟩
              · exact induction (same.symm.trans starting)
              · cases waiting.symm.trans starting
              · cases ended.symm.trans starting

/-- Without a last point to save, a connection goes on as long as its reader listens. -/
theorem listening_of_running (never : ∀ memory, conversation.parting memory = none)
    (reached : Reached conversation stored past state) (running : state.stopped = false) :
    state.reader.isDone = false := by
  induction reached with
  | start => rfl
  | @step past state next event effects reached possible induction =>
      cases ofReader : event.isOfReader with
      | true =>
          obtain ⟨now, asking⟩ := step_of_asking ofReader possible
          rcases asking.halts with listening | stopped | ⟨memory, point, parting⟩
          · exact listening
          · rw [stopped] at running
            cases running
          · rw [never] at parting
            cases parting
      | false =>
          rw [(step_of_others ofReader possible).1]
          exact induction (running_of_step running possible)

/-- A text arrives if the conversation does not end with it. -/
theorem text_of_received {outcome : Except Failure Frame}
    (received : turn.event = .received outcome) :
    turn.text? = if turn.state.endsWith outcome then none else textOf? outcome := by
  unfold Turn.text? Turn.arrival?
  rw [received]
  cases outcome with
  | error failure => simp [textOf?]
  | ok frame =>
      cases stopped : turn.state.stopped <;> cases frame <;>
        simp [State.endsWith, stopped, textOf?, Frame.text?]

theorem text_of_no_receipt (quiet : turn.event.receipt? = none) : turn.text? = none := by
  unfold Turn.text? Turn.arrival?
  cases event : turn.event <;> simp_all [Event.receipt?]

theorem heard_snoc_of_reached (reached : Reached conversation stored (past ++ [turn]) next) :
    heard (past ++ [turn]) = heard past ++ turn.text?.toList := by
  obtain ⟨before, possible⟩ := reached_snoc reached
  cases receipt : turn.event.receipt? with
  | none =>
      rw [heard_snoc_of_none receipt, text_of_no_receipt receipt]
      exact (List.append_nil _).symm
  | some outcome =>
      have received : turn.event = .received outcome := by
        cases event : turn.event <;> simp_all [Event.receipt?]
      rw [received] at possible
      obtain ⟨receiving, -⟩ := step_received possible
      have open_ : Unended past := unended_of_reached before (by simp [receiving, Reader.isDone])
      rw [heard_snoc open_ received, text_of_received received]
      split <;> rfl

/-- The texts that a conversation hears are those of the frames that arrive. -/
theorem heard_of_reached (reached : Reached conversation stored past state) :
    heard past = (arrivals past).filterMap Frame.text? := by
  induction reached with
  | start => rfl
  | step reached possible induction =>
      rw [heard_snoc_of_reached (reached.step possible), arrivals_snoc, List.filterMap_append,
        induction, Turn.text?]
      congr 1
      cases Turn.arrival? _ with
      | none => rfl
      | some frame => cases frame <;> rfl

theorem count_arrivals_of_reached (test : Bytes → Bool)
    (reached : Reached conversation stored past state) :
    (arrivals past).countP (Frame.carries test) = (heard past).countP test := by
  rw [heard_of_reached reached, List.countP_filterMap]
  refine List.countP_congr fun frame _ => ?_
  cases text : frame.text? <;> simp [Frame.carries, text]

/-! The queue keeps the order. -/

theorem enqueue_none (queue requests : List Request) :
    Conversation.enqueue none queue requests = queue ++ requests := by
  induction requests generalizing queue with
  | nil => simp [Conversation.enqueue]
  | cons request requests induction =>
      have one : Conversation.enqueue none queue (request :: requests) =
          Conversation.enqueue none (queue ++ [request]) requests := rfl
      rw [one, induction, List.append_assoc]
      rfl

theorem length_enqueue_le {capacity : Nat} {queue : List Request} (requests : List Request)
    (bounded : queue.length ≤ capacity) :
    (Conversation.enqueue (some capacity) queue requests).length ≤ capacity := by
  induction requests generalizing queue with
  | nil => exact bounded
  | cons request requests induction =>
      apply induction
      by_cases full : capacity ≤ queue.length
      · simpa [Conversation.put, full] using bounded
      · simp only [Conversation.put, Option.any_some, full, decide_false, Bool.false_eq_true,
          if_false, List.length_append, List.length_singleton]
        omega

theorem mem_of_mem_enqueue {capacity : Option Nat} {queue requests : List Request}
    {request : Request} (member : request ∈ Conversation.enqueue capacity queue requests) :
    request ∈ queue ∨ request ∈ requests := by
  induction requests generalizing queue with
  | nil => exact .inl member
  | cons first requests induction =>
      rcases induction member with before | later
      · unfold Conversation.put at before
        split at before
        · exact .inl before
        · rcases List.mem_append.mp before with queued | new
          · exact .inl queued
          · exact .inr (List.mem_cons.mpr (.inl (List.mem_singleton.mp new)))
      · exact .inr (List.mem_cons_of_mem first later)

theorem demand_of_others (others : turn.event.isOfReader = false) :
    turn.demand conversation = [] := by
  unfold Turn.demand Turn.arrival?
  cases event : turn.event <;> simp_all [Event.isOfReader]

/-- Without a limit on the queue, the reader puts all that it owes into the queue. -/
theorem unsent_of_reader (unbounded : conversation.capacity = none)
    (ofReader : event.isOfReader = true)
    (possible : step conversation state event = some (next, effects))
    (running : next.stopped = false) :
    ∃ now, next.unsent = state.unsent ++ now ∧ now ++ next.reader.due =
      state.reader.due ++ Turn.demand conversation ⟨state, event, effects⟩ := by
  obtain ⟨now, asking⟩ := step_of_asking ofReader possible
  refine ⟨now, ?_, asking.kept running⟩
  rw [State.unsent, State.unsent, asking.untouched.writer, asking.queue, unbounded, enqueue_none,
    List.append_assoc]

/-- Without a limit on the queue, the requests that were sent and those that are to be sent
are those that were asked for, in the same order. -/
theorem sent_unsent_of_reached (unbounded : conversation.capacity = none)
    (reached : Reached conversation stored past state) (running : state.stopped = false) :
    sent past ++ state.unsent ++ state.reader.due =
      (conversation.opening stored).toList ++ conversation.queued ++
        demands conversation past := by
  induction reached with
  | start => simp [sent, demands, State.unsent, State.start, Writer.held, Reader.due]
  | @step past state next event effects reached possible induction =>
      -- The reader lengthens the list at its end, the writer moves requests along in it.
      have law := induction (running_of_step running possible)
      rw [demands_snoc, ← List.append_assoc, ← law, sent_snoc]
      cases ofReader : event.isOfReader with
      | true =>
          obtain ⟨now, unsent, owed⟩ := unsent_of_reader unbounded ofReader possible running
          obtain ⟨_, asking⟩ := step_of_asking ofReader possible
          rw [asking.sends, unsent]
          simp only [List.append_assoc, owed, List.append_nil]
      | false =>
          have reader := (step_of_others ofReader possible).1
          have kept := (step_of_handling ofReader possible).conserves
            (running_of_step running possible)
          rw [demand_of_others ofReader, ← kept, reader]
          simp only [List.append_assoc, List.append_nil]

/-! What is still sent once the reader listens no more. -/

theorem due_of_done (done : state.reader.isDone = true) : state.reader.due = [] := by
  cases reader : state.reader <;> simp_all [Reader.isDone, Reader.due]

theorem demand_of_done (done : state.reader.isDone = true)
    (possible : step conversation state event = some (next, effects)) :
    Turn.demand conversation ⟨state, event, effects⟩ = [] := by
  cases event with
  | readerStarts =>
      rw [(step_starts possible).1] at done
      cases done
  | received outcome =>
      rw [(step_received possible).1] at done
      cases done
  | supervisorStarts | supervisorStops | stopFollowed | closerWakes | closed outcome
  | writerStarts | writerTakes | writerResumes | writerQuits | sent outcome | ponged outcome
  | called outcome | saved outcome => rfl

theorem unsent_of_done (done : state.reader.isDone = true) (ofReader : event.isOfReader = true)
    (possible : step conversation state event = some (next, effects)) :
    next.unsent = state.unsent ∧ next.writer = state.writer ∧
      effects.filterMap Effect.request? = [] := by
  obtain ⟨now, asking⟩ := step_of_asking ofReader possible
  have owed := asking.owed
  rw [due_of_done done, demand_of_done done possible, List.append_nil, List.prefix_nil,
    List.append_eq_nil_iff] at owed
  refine ⟨?_, asking.untouched.writer, asking.sends⟩
  rw [State.unsent, State.unsent, asking.untouched.writer, asking.queue, owed.1]
  rfl

/-- The reader listens no more. What was unsent when it ceased to has been sent in the turns since
or is still unsent, in order, unless the writer has ended. -/
def Emptying (unsent : List Request) (after : List (Turn Memory Delivery))
    (state : State Memory) : Prop :=
  state.reader.isDone = true ∧ (sent after ++ state.unsent = unsent ∨
    state.writer = .ended ∧ sent after <+: unsent)

theorem emptying_snoc {unsent : List Request} {after : List (Turn Memory Delivery)}
    (emptying : Emptying unsent after turn.state)
    (possible : step conversation turn.state turn.event = some (next, turn.effects)) :
    Emptying unsent (after ++ [turn]) next := by
  obtain ⟨done, standing⟩ := emptying
  refine ⟨(step_of_done done possible).1, ?_⟩
  rw [sent_snoc]
  cases ofReader : turn.event.isOfReader with
  | true =>
      obtain ⟨same, writer, silent⟩ := unsent_of_done done ofReader possible
      rw [same, writer, silent, List.append_nil]
      exact standing
  | false =>
      have handling := step_of_handling ofReader possible
      rcases standing with whole | ⟨ended, part⟩
      · rcases handling.conserves_or_drops with kept | ⟨-, ended, silent⟩
        · exact .inl (by rw [List.append_assoc, kept, whole])
        · refine .inr ⟨ended, turn.state.unsent, ?_⟩
          rw [silent, List.append_nil, whole]
      · obtain ⟨still, silent⟩ := handling.silent_of_ended ended
        exact .inr ⟨still, by rw [silent, List.append_nil]; exact part⟩

/-- Once the reader listens no more, nothing is sent but what was unsent by then. -/
theorem sent_after_done {after : List (Turn Memory Delivery)}
    (reached : Reached conversation stored past state) (done : state.reader.isDone = true)
    (later : Reached conversation stored (past ++ after) next) : sent after <+: state.unsent := by
  have emptying : Emptying state.unsent after next :=
    holds_later reached ⟨done, .inl rfl⟩ (fun _ => emptying_snoc) later
  rcases emptying.2 with whole | ⟨-, part⟩
  · exact ⟨next.unsent, whole⟩
  · exact part

/-! Runs in which the writer hands over what is queued. -/

theorem step_binary (content : Bytes) (receiving : state.reader = .receiving)
    (running : state.stopped = false) :
    step conversation state (.received (.ok (.binary content))) =
      some ({ state.put conversation conversation.refill with
        memory := conversation.count state.memory },
        [.log "skipping unexpected binary message"]) := by
  cases state
  simp only at receiving running
  subst receiving running
  rfl

theorem reached_handing {request : Request} {queue : List Request}
    (reached : Reached conversation stored past state) (running : state.stopped = false)
    (waiting : state.writer = .waiting) (queued : state.queue = request :: queue) :
    ∃ more, Reached conversation stored (past ++ more) { state with queue := queue } ∧
      sent (past ++ more) = sent past ++ [request] ∧
      arrivals (past ++ more) = arrivals past ∧ handed (past ++ more) = handed past := by
  have takes := reached.step (show step conversation state .writerTakes =
    some ({ state with writer := .holding request, queue := queue }, []) by
      simp [step, waiting, queued])
  have hands := takes.step (show step conversation _ .writerResumes =
    some ({ state with writer := .sending request, queue := queue }, [.send request]) by
      simp [step, running])
  have done := hands.step (show step conversation _ (.sent (.ok ())) =
    some ({ state with writer := .waiting, queue := queue }, []) from rfl)
  rw [← waiting] at done
  refine ⟨_, by simpa only [List.append_assoc] using done, ?_, ?_, ?_⟩
  · simp [sent, Effect.request?]
  · simp [arrivals, Turn.arrival?]
  · simp [handed, Effect.delivery?]

theorem reached_handing_all (front queue : List Request)
    (reached : Reached conversation stored past state) (running : state.stopped = false)
    (waiting : state.writer = .waiting) (queued : state.queue = front ++ queue) :
    ∃ more, Reached conversation stored (past ++ more) { state with queue := queue } ∧
      sent (past ++ more) = sent past ++ front ∧ arrivals (past ++ more) = arrivals past := by
  induction front generalizing past state with
  | nil =>
      cases queued
      exact ⟨[], by rw [List.append_nil]; exact reached, by simp, by simp⟩
  | cons request front induction =>
      obtain ⟨first, handing, gone, arrived, -⟩ :=
        reached_handing reached running waiting queued
      obtain ⟨rest, emptied, all, same⟩ := induction handing running waiting rfl
      refine ⟨first ++ rest, by simpa using emptied, ?_, ?_⟩
      · rw [← List.append_assoc, all, gone, List.append_assoc]
        rfl
      · rw [← List.append_assoc, same, arrived]

theorem reached_emptied (queue : List Request)
    (reached : Reached conversation stored past state) (running : state.stopped = false)
    (waiting : state.writer = .waiting) (queued : state.queue = queue) :
    ∃ more, Reached conversation stored (past ++ more) { state with queue := [] } ∧
      sent (past ++ more) = sent past ++ queue ∧ arrivals (past ++ more) = arrivals past :=
  reached_handing_all queue [] reached running waiting (by rw [queued, List.append_nil])

/-- A writer that goes on hands over what it holds and comes to wait for the next request. -/
theorem reached_idle (reached : Reached conversation stored past state)
    (running : state.stopped = false) :
    ∃ more, Reached conversation stored (past ++ more) { state with writer := .waiting } ∧
      sent (past ++ more) = sent past ++ state.writer.held := by
  have answers {turns : List (Turn Memory Delivery)} {request : Request}
      (sending : Reached conversation stored turns { state with writer := .sending request }) :
      Reached conversation stored (turns ++ [⟨{ state with writer := .sending request },
        .sent (.ok ()), []⟩]) { state with writer := .waiting } := sending.step rfl
  cases writer : state.writer with
  | ended => exact absurd writer (writer_of_running reached running)
  | waiting =>
      refine ⟨[], by rw [← writer, List.append_nil]; exact reached, ?_⟩
      simp [Writer.held]
  | sending request =>
      refine ⟨_, answers (by rw [← writer]; exact reached), ?_⟩
      simp [Writer.held]
  | holding request =>
      have hands := reached.step (show step conversation state .writerResumes =
        some ({ state with writer := .sending request }, [.send request]) by
          simp [step, writer, running])
      refine ⟨_, by simpa only [List.append_assoc] using answers hands, ?_⟩
      simp [sent, Effect.request?, Writer.held]
  | starting opening =>
      cases opening with
      | none =>
          have opens := reached.step (show step conversation state .writerStarts =
            some ({ state with writer := .waiting }, []) by simp [step, writer])
          refine ⟨_, opens, ?_⟩
          simp [Writer.held]
      | some request =>
          have opens := reached.step (show step conversation state .writerStarts =
            some ({ state with writer := .sending request }, [.send request]) by
              simp [step, writer])
          refine ⟨_, by simpa only [List.append_assoc] using answers opens, ?_⟩
          simp [sent, Effect.request?, Writer.held]

/-- As long as a connection is not stopped, all that is unsent may be sent, and the last of it
may fail the connection. -/
theorem reached_failed_request {request : Request} {front : List Request}
    (reached : Reached conversation stored past state) (running : state.stopped = false)
    (queued : state.queue = front ++ [request]) (failure : Failure) :
    ∃ more last, Reached conversation stored (past ++ more) last ∧ sent more = state.unsent ∧
      last.failure = (state.failure <|> some (request.duty.failed failure)) := by
  have open_ : state.closer = .waiting := by
    cases closing : state.isClosing with
    | false => simpa [State.isClosing] using closing
    | true => rw [stopped_of_closing reached closing] at running; cases running
  obtain ⟨first, idle, held⟩ := reached_idle reached running
  obtain ⟨second, alone, gone, -⟩ := reached_handing_all front [request] idle running rfl queued
  have takes := alone.step (show step conversation _ .writerTakes =
    some ({ state with writer := .holding request, queue := [] }, []) by simp [step])
  have hands := takes.step (show step conversation _ .writerResumes =
    some ({ state with writer := .sending request, queue := [] }, [.send request]) by
      simp [step, running])
  have fails := hands.step (show step conversation _ (.sent (.error failure)) =
    some ({ state with writer := .ended, queue := [] }.fail (request.duty.failed failure), [])
      by simp [step, State.isClosing, open_])
  refine ⟨_, _, by simpa only [List.append_assoc] using fails, ?_, rfl⟩
  have all : sent (first ++ second) = state.writer.held ++ front := by
    rw [held, List.append_assoc past, List.append_assoc, sent_append] at gone
    exact List.append_cancel_left gone
  rw [← List.append_assoc, sent_append, all, State.unsent, queued, List.append_assoc]
  simp [sent, Effect.request?]

end

end NodeBridge.Connection
