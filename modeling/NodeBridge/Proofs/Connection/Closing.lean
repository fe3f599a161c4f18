import NodeBridge.Proofs.Connection.Conservation

/-!
How a connection comes to its end. The closer closes the line, and it does so once; every
other duty that still waits for something is woken by the stop or by the line that is closed.
A connection that was stopped can therefore only stand still while a delivery is under way.
-/

namespace NodeBridge.Connection

section

variable {Memory Delivery : Type}

def Effect.isClose : Effect Delivery → Bool
  | .close => true
  | _ => false

/-- Whether an event has to come about sooner or later if it is possible. What is received or
sent is up to the peer until the line is closed, and a delivery takes as long as it likes. -/
def Event.isDue (state : State Memory) : Event → Bool
  | .called _ => false
  | .received _ | .sent _ | .ponged _ => state.closer = .ended
  | _ => true

variable {conversation : Conversation Memory Delivery} {state next : State Memory}
  {event : Event} {effects : List (Effect Delivery)}

theorem no_close_of_part (context : Option Failure) :
    (part conversation state context).2.countP Effect.isClose = 0 := by
  unfold part
  cases conversation.parting state.memory with
  | none => rfl
  | some point => rfl

theorem no_close_of_handle (frame : Frame) :
    (handle conversation state frame).2.countP Effect.isClose = 0 := by
  cases frame with
  | close => exact no_close_of_part none
  | binary content | ping content | pong content => rfl
  | text content =>
      simp only [handle]
      split <;> rfl

theorem no_close_of_receive (outcome : Except Failure Frame) :
    (receive conversation state outcome).2.countP Effect.isClose = 0 := by
  cases outcome with
  | error failure =>
      simp only [receive]
      split
      · exact no_close_of_part _
      · rfl
  | ok frame =>
      simp only [receive]
      split
      · exact no_close_of_part _
      · exact no_close_of_handle frame

theorem no_close_of_reader (ofReader : event.isOfReader = true)
    (possible : step conversation state event = some (next, effects)) :
    effects.countP Effect.isClose = 0 := by
  cases event with
  | supervisorStarts | supervisorStops | stopFollowed | closerWakes | closed outcome |
    writerStarts | writerTakes | writerResumes | writerQuits | sent outcome => cases ofReader
  | readerStarts =>
      obtain ⟨-, rfl, -⟩ := step_starts possible
      rfl
  | ponged outcome =>
      obtain ⟨-, rfl, -⟩ := step_ponged possible
      rfl
  | called outcome =>
      obtain ⟨save, memory, requests, -, ends⟩ := step_called possible
      rcases ends with ⟨point, -, -, rfl, -⟩ | ⟨-, -, rfl, -⟩ | ⟨failure, -, rfl, -⟩ <;> rfl
  | saved outcome =>
      obtain ⟨rfl, -⟩ := step_saved possible
      rfl
  | received outcome =>
      simp only [step] at possible
      split at possible
      · next receiving =>
          have quiet : (receive conversation state outcome).2.countP Effect.isClose = 0 :=
            no_close_of_receive outcome
          rwa [Option.some.inj possible] at quiet
      · cases possible

/-- All that a step can do to the closer: it leaves the closer alone, it wakes it, or it ends it.
The line is closed when the closer wakes, and at no other time. -/
theorem closer_cases (possible : step conversation state event = some (next, effects)) :
    (next.closer = state.closer ∧ effects.countP Effect.isClose = 0) ∨
      (state.closer = .waiting ∧ next.closer = .closing ∧ effects = [.close]) ∨
      (state.closer = .closing ∧ next.closer = .ended ∧ effects = []) := by
  cases ofReader : event.isOfReader with
  | true =>
      obtain ⟨now, asking⟩ := step_of_asking ofReader possible
      exact .inl ⟨asking.untouched.closer, no_close_of_reader ofReader possible⟩
  | false =>
      cases event with
      | readerStarts | received outcome | ponged outcome | called outcome | saved outcome =>
          cases ofReader
      | supervisorStarts | supervisorStops | stopFollowed | closerWakes | closed outcome |
        writerStarts | writerTakes | writerResumes | writerQuits | sent outcome =>
          simp only [step] at possible
          split at possible <;> grind [State.fail, Effect.isClose]

theorem closes_of_step (possible : step conversation state event = some (next, effects)) :
    effects.countP Effect.isClose + (!next.isClosing).toNat = (!state.isClosing).toNat := by
  rcases closer_cases possible with ⟨same, quiet⟩ | ⟨waiting, closing, rfl⟩ | ⟨closing, ended, rfl⟩
  · rw [quiet, Nat.zero_add, State.isClosing, State.isClosing, same]
  · simp [State.isClosing, waiting, closing, Effect.isClose]
  · simp [State.isClosing, closing, ended]

/-- The last step of a connection is taken when its line is closed already. -/
theorem closing_of_ended (possible : step conversation state event = some (next, effects))
    (ended : next.ended = true) : state.isClosing = true := by
  have last : next.closer = .ended := by
    simp only [State.ended, Bool.and_eq_true, decide_eq_true_eq] at ended
    exact ended.1.1.2
  rcases closer_cases possible with ⟨same, -⟩ | ⟨-, closing, -⟩ | ⟨closing, -, -⟩
  · simp [State.isClosing, same.symm.trans last]
  · rw [closing] at last
    cases last
  · simp [State.isClosing, closing]

/-! A stopped connection in which nothing that is due can happen. -/

section

variable (stopped : state.stopped = true)
  (still : ∀ event, event.isDue state = true → step conversation state event = none)

include stopped still

theorem supervisor_of_still : state.supervisor = .ended := by
  cases supervisor : state.supervisor with
  | ended => rfl
  | starting => exact absurd (still .supervisorStarts rfl) (by simp [step, supervisor])
  | watching => exact absurd (still .supervisorStops rfl) (by simp [step, supervisor, stopped])

theorem closer_of_still : state.closer = .ended := by
  cases closer : state.closer with
  | ended => rfl
  | waiting => exact absurd (still .closerWakes rfl) (by simp [step, closer, stopped])
  | closing => exact absurd (still (.closed (.ok ())) rfl) (by simp [step, closer])

theorem writer_of_still : state.writer = .ended := by
  have closer := closer_of_still stopped still
  cases writer : state.writer with
  | ended => rfl
  | waiting => exact absurd (still .writerQuits rfl) (by simp [step, writer, stopped])
  | starting opening =>
      exact absurd (still .writerStarts rfl) (by cases opening <;> simp [step, writer])
  | holding request =>
      exact absurd (still .writerResumes rfl) (by simp [step, writer, stopped])
  | sending request =>
      exact absurd (still (.sent (.ok ())) (by simp [Event.isDue, closer]))
        (by simp [step, writer])

theorem reader_of_still (calm : state.reader.isCalling = false) :
    state.readerEnded = true := by
  have closer := closer_of_still stopped still
  cases reader : state.reader with
  | ended => simp [State.readerEnded, reader]
  | calling save memory requests => simp [reader, Reader.isCalling] at calm
  | starting => exact absurd (still .readerStarts rfl) (by simp [step, reader])
  | receiving =>
      exact absurd (still (.received (.ok .close)) (by simp [Event.isDue, closer]))
        (by simp [step, reader])
  | ponging =>
      exact absurd (still (.ponged (.ok ())) (by simp [Event.isDue, closer]))
        (by simp [step, reader])
  | saving memory requests =>
      exact absurd (still (.saved (.ok ())) rfl) (by simp [step, reader])
  | parting context => exact absurd (still (.saved (.ok ())) rfl) (by simp [step, reader])

/-- A stopped connection that stands still has ended, unless a delivery is under way. -/
theorem ended_of_still (calm : state.reader.isCalling = false) : state.ended = true := by
  simp [State.ended, supervisor_of_still stopped still, closer_of_still stopped still,
    writer_of_still stopped still, reader_of_still stopped still calm]

end

end

end NodeBridge.Connection
