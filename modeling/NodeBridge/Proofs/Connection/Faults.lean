import NodeBridge.Proofs.Connection.Conservation

/-!
What stops a connection, and what makes it fail. Apart from what goes wrong outside, only a
conversation that refuses a frame makes a connection fail; and a connection that does not fail
goes on until it is told to stop or the node closes the line.
-/

namespace NodeBridge

/-- A conversation that takes every frame. -/
def Conversation.NeverRefuses {Memory Delivery : Type}
    (conversation : Conversation Memory Delivery) : Prop :=
  ∀ memory content failure, conversation.react memory content ≠ .refuse failure

namespace Connection

/-- Whether an event asks for the end: the session is to stop, or the node closes the line. -/
def Event.isFarewell : Event → Bool
  | .stopFollowed | .received (.ok .close) => true
  | _ => false

section

variable {Memory Delivery : Type}

/-- Whether nothing goes wrong outside when an event happens. That a line fails while it is
being closed is as it should be. -/
def State.suffers (state : State Memory) : Event → Bool
  | .closed outcome | .ponged outcome | .called outcome | .saved outcome => !outcome.isOk
  | .received (.error _) | .sent (.error _) => !state.isClosing
  | _ => false

/-- Whether a connection comes to its end. -/
def State.isEnding (state : State Memory) : Bool := state.stopped || state.reader.isDone

/-- A step in which a connection does not fail and does not come to its end unless it has to. -/
structure Carries (state next : State Memory) (farewell : Bool) : Prop where
  failure : next.failure = state.failure
  ending : next.isEnding = true → state.isEnding = true ∨ farewell = true

variable {conversation : Conversation Memory Delivery} {stored : List Point}
  {past : List (Turn Memory Delivery)} {state next : State Memory} {event : Event}
  {effects : List (Effect Delivery)} {farewell : Bool}

theorem carries_of_part {parted : State Memory} (context : Option Failure)
    (kept : parted.failure = state.failure) (ends : state.isEnding = true ∨ farewell = true) :
    Carries state (part conversation parted context).1 farewell := by
  unfold part
  split
  · exact ⟨kept, fun _ => ends⟩
  · exact ⟨kept, fun _ => ends⟩

theorem carries_of_handle (receptive : conversation.NeverRefuses) {noted : State Memory}
    (kept : noted.failure = state.failure) (running : noted.stopped = false)
    (receiving : noted.reader = .receiving) (frame : Frame) :
    Carries state (handle conversation noted frame).1
      (Event.isFarewell (.received (.ok frame))) := by
  have goes {after : State Memory} (same : after.failure = noted.failure)
      (stop : after.stopped = noted.stopped) (listens : after.reader.isDone = false) :
      Carries state after (Event.isFarewell (.received (.ok frame))) := by
    refine ⟨same.trans kept, ?_⟩
    intro ending
    rw [State.isEnding, stop, running, listens] at ending
    cases ending
  have listening : noted.reader.isDone = false := by rw [receiving]; rfl
  cases frame with
  | binary content | pong content => exact goes rfl rfl listening
  | ping content => exact goes rfl rfl rfl
  | close => exact carries_of_part none kept (.inr rfl)
  | text content =>
      simp only [handle]
      split
      · exact goes rfl rfl rfl
      · exact goes rfl rfl rfl
      · next failure refuses => exact absurd refuses (receptive _ _ _)

theorem carries_of_receive (receptive : conversation.NeverRefuses)
    (order : state.isClosing = true → state.stopped = true)
    (receiving : state.reader = .receiving) {outcome : Except Failure Frame}
    (calm : state.suffers (.received outcome) = false) :
    Carries state (receive conversation state outcome).1
      (Event.isFarewell (.received outcome)) := by
  have ending (stopped : state.stopped = true) : state.isEnding = true := by
    rw [State.isEnding, stopped, Bool.true_or]
  cases outcome with
  | error failure =>
      have closing : state.isClosing = true := by simpa [State.suffers] using calm
      simp only [receive, closing, if_true]
      exact carries_of_part _ rfl (.inl (ending (order closing)))
  | ok frame =>
      simp only [receive]
      split
      · next stopped => exact carries_of_part _ rfl (.inl (ending stopped))
      · next running =>
          rw [Bool.not_eq_true] at running
          refine carries_of_handle receptive ?_ ?_ ?_ frame
          · rfl
          · exact running
          · exact receiving

/-- What a step does in which nothing goes wrong outside, of a conversation that takes every
frame. -/
theorem carries_of_step (receptive : conversation.NeverRefuses)
    (order : state.isClosing = true → state.stopped = true)
    (calm : state.suffers event = false)
    (possible : step conversation state event = some (next, effects)) :
    Carries state next event.isFarewell := by
  -- Where the stop and the end of the reader stay as they are, there is nothing to account for.
  have same {after : State Memory} (kept : after.failure = state.failure)
      (ending : after.isEnding = true → state.isEnding = true) :
      Carries state after event.isFarewell := ⟨kept, fun ends => .inl (ending ends)⟩
  cases event with
  | received outcome =>
      simp only [step] at possible
      split at possible
      · next receiving =>
          have carries := carries_of_receive receptive order receiving calm
          rwa [Option.some.inj possible] at carries
      · cases possible
  | stopFollowed =>
      simp only [step] at possible
      split at possible
      · cases possible
      · cases possible
        exact ⟨rfl, fun _ => .inr rfl⟩
  | readerStarts =>
      obtain ⟨starting, -, rfl⟩ := step_starts possible
      exact same rfl (by simp [State.isEnding, State.listen, State.put, starting, Reader.isDone])
  | closed outcome =>
      simp only [step] at possible
      split at possible
      · split at possible
        · cases possible
          exact same rfl id
        · cases calm
      · cases possible
  | ponged outcome =>
      simp only [step] at possible
      split at possible
      · next ponging =>
          cases possible
          exact same rfl (by simp [State.isEnding, ponging, Reader.isDone])
      · cases calm
      · cases possible
  | called outcome =>
      simp only [step] at possible
      split at possible
      · next calling =>
          cases possible
          exact same rfl (by simp [State.isEnding, calling, Reader.isDone])
      · next calling =>
          cases possible
          exact same rfl (by simp [State.isEnding, State.listen, State.put, calling, Reader.isDone])
      · cases calm
      · cases possible
  | saved outcome =>
      simp only [step] at possible
      split at possible
      · next saving =>
          cases possible
          exact same rfl (by simp [State.isEnding, State.listen, State.put, saving, Reader.isDone])
      · cases calm
      · next parting =>
          cases possible
          exact same rfl (by simp [State.isEnding, parting, Reader.isDone])
      · cases calm
      · cases possible
  | sent outcome =>
      simp only [step] at possible
      split at possible
      · cases possible
        exact same rfl id
      · next failure sending =>
          have closing : state.isClosing = true := by simpa [State.suffers] using calm
          rw [closing] at possible
          cases possible
          exact same rfl id
      · cases possible
  | supervisorStarts | supervisorStops | closerWakes | writerStarts | writerTakes |
    writerResumes | writerQuits =>
      simp only [step] at possible
      repeat' split at possible
      all_goals cases possible
      all_goals exact same rfl id

/-- A connection whose world works and whose conversation takes every frame does not fail, and
it does not come to its end before the end is asked for. -/
theorem unfailing_of_reached (receptive : conversation.NeverRefuses)
    (reached : Reached conversation stored past state)
    (calm : ∀ turn ∈ past, turn.state.suffers turn.event = false) :
    state.failure = none ∧
      (state.isEnding = true → ∃ turn ∈ past, turn.event.isFarewell = true) := by
  induction reached with
  | start => exact ⟨rfl, fun ending => by cases ending⟩
  | @step past state next event effects reached possible induction =>
      rw [List.forall_mem_append, List.forall_mem_singleton] at calm
      obtain ⟨unfailing, asked⟩ := induction calm.1
      have carries := carries_of_step receptive (stopped_of_closing reached) calm.2 possible
      refine ⟨carries.failure.trans unfailing, ?_⟩
      intro ending
      rcases carries.ending ending with before | farewell
      · obtain ⟨turn, member, farewell⟩ := asked before
        exact ⟨turn, List.mem_append_left _ member, farewell⟩
      · exact ⟨_, List.mem_append_right _ List.mem_cons_self, farewell⟩

end

end Connection

end NodeBridge
