import NodeBridge.Proofs.Session.Failures

/-!
What becomes of a text that arrives while a session listens. If the conversation takes it, the
connection goes on and nothing has failed. If it refuses the text over what trying again would not
mend, the session is over with that failure, whatever happens until then.
-/

namespace NodeBridge

namespace Connection

section

variable {Memory Delivery : Type} {conversation : Conversation Memory Delivery}
  {stored : List Point} {past : List (Turn Memory Delivery)} {state next : State Memory}
  {event : Event} {effects : List (Effect Delivery)} {content : Bytes} {failure : Failure}

theorem step_text_of_refuse (receiving : state.reader = .receiving)
    (running : state.stopped = false)
    (reacts : conversation.react (conversation.count state.memory) content = .refuse failure) :
    step conversation state (.received (.ok (.text content))) =
      some ({ state.put conversation conversation.refill with
        memory := conversation.count state.memory }.failReader failure, []) := by
  cases state
  simp only at receiving running
  subst receiving running
  simp only [step, receive, Bool.false_eq_true, if_false, handle, memory_put, reacts]
  rfl

/-- A text that is not refused leaves a connection going. -/
theorem step_text_of_accept (receiving : state.reader = .receiving)
    (running : state.stopped = false)
    (accepts : ∀ failure,
      conversation.react (conversation.count state.memory) content ≠ .refuse failure) :
    ∃ next effects,
      step conversation state (.received (.ok (.text content))) = some (next, effects) ∧
        next.failure = state.failure ∧ next.stopped = false ∧ next.ended = false := by
  cases reacts : conversation.react (conversation.count state.memory) content with
  | proceed memory requests =>
      refine ⟨_, _, step_text_of_proceed receiving running reacts, rfl, running, ?_⟩
      simp [State.ended, State.readerEnded]
  | deliver delivery save memory requests =>
      refine ⟨_, _, step_text_of_deliver receiving running reacts, rfl, running, ?_⟩
      simp [State.ended, State.readerEnded]
  | refuse failure => exact absurd reacts (accepts failure)

end

end Connection

namespace Session

section

variable {Memory Delivery : Type}

/-- Whatever happens next, a session does not dial again, it does not stand still before it is over,
and it is over with this failure. -/
def State.EndsOver (options : Options) (conversation : Conversation Memory Delivery)
    (state : State Memory) (failure : Failure) : Prop :=
  ∀ events last told, run options conversation state events = some (last, told) →
    (∀ turn ∈ told, turn.2.any Effect.dials = false) ∧
      (last.IsQuiescent options conversation → last.isEnded = true) ∧
      (last.isEnded = true → last.failure? = some failure)

/-- Whether a line is closed because the points could not be loaded or written. -/
def State.isAbandoning (state : State Memory) : Bool :=
  match state.phase with
  | .abandoning _ => true
  | _ => false

variable {options : Options} {conversation : Conversation Memory Delivery}
  {state next : State Memory} {event : Event} {effects : List (Effect Delivery)}
  {connection : Connection.State Memory} {content : Bytes} {failure : Failure}

theorem held_of_conclusion {result : Option Failure}
    (concludes : Conclusion options state next result effects) : next.isAbandoning = false := by
  cases concludes with
  | settles phase | redials failure failed reconnects temporary prompt phase
  | pauses message running phase | desists message stopping phase =>
      rw [phase]
      rfl

/-- A line that is held is not abandoned afterwards. -/
theorem held_of_move (doomed : state.Doomed failure) (held : state.isAbandoning = false)
    (move : Move options conversation state next event effects) : next.isAbandoning = false := by
  unfold State.Doomed at doomed
  cases move with
  | opens dialing => simp only [dialing] at doomed
  | loads stored loading | abandons outcome failure loading => simp only [loading] at doomed
  | misses raised dialing concludes | leaves outcome earlier result abandoning concludes
  | ends event connection later done connected permitted possible ended concludes =>
      exact held_of_conclusion concludes
  | works event connection later done connected permitted possible goes phase | wakes _ phase =>
      rw [phase]
      rfl
  | stops asked phase awake =>
      unfold State.isAbandoning at held ⊢
      rcases phase with same | ⟨-, finished⟩
      · rw [same]
        exact held
      · rw [finished]

/-- A session that holds its line is over with the very failure that dooms it. -/
theorem ends_over_of_doomed (doomed : state.Doomed failure) (held : state.isAbandoning = false)
    (lasting : failure.isTemporary = false) : state.EndsOver options conversation failure := by
  intro events
  induction events generalizing state with
  | nil =>
      intro last told ran
      cases ran
      exact ⟨by simp, ended_of_doomed doomed, failure_of_doomed doomed⟩
  | cons event events induction =>
      intro last told ran
      obtain ⟨next, effects, after, possible, goes, rfl⟩ := step_of_run ran
      have move := move_of_step possible
      have closes (closing : Failure) (abandoned : event = .abandoned (.error closing)) :
          closing.isTemporary = false := by
        subst abandoned
        cases move with
        | leaves outcome earlier result abandoning =>
            simp [State.isAbandoning, abandoning] at held
      obtain ⟨quiet, dooms | ⟨closing, rfl, -⟩⟩ := doomed_of_move doomed lasting closes move
      · obtain ⟨silent, still, final⟩ :=
          induction dooms (held_of_move doomed held move) last after goes
        exact ⟨List.forall_mem_cons.mpr ⟨quiet, silent⟩, still, final⟩
      · cases move with
        | leaves outcome earlier result abandoning =>
            simp [State.isAbandoning, abandoning] at held

/-- What becomes of a text: the connection goes on and nothing has failed, or the session is over
with the failure that the text is refused with. -/
inductive Verdict (options : Options) (conversation : Conversation Memory Delivery)
    (connection : Connection.State Memory) (content : Bytes) (next : State Memory) : Prop where
  | accepted (later : Connection.State Memory) (phase : next.phase = .connected later)
      (running : later.stopped = false) (unfailing : later.failure = none)
      (accepts : ∀ failure,
        conversation.react (conversation.count connection.memory) content ≠ .refuse failure)
  | refused (failure : Failure)
      (refuses : conversation.react (conversation.count connection.memory) content =
        .refuse failure)
      (final : next.EndsOver options conversation failure)

/-- A listening session takes a text or is over with the failure that it is refused with. -/
theorem verdict_of_text (good : conversation.RefusesForGood)
    (connected : state.phase = .connected connection) (receiving : connection.reader = .receiving)
    (running : connection.stopped = false) (unfailing : connection.failure = none) :
    ∃ next effects,
      step options conversation state (.connection (.received (.ok (.text content)))) =
        some (next, effects) ∧
      effects.any Effect.dials = false ∧ Verdict options conversation connection content next := by
  by_cases refuses : ∃ failure,
      conversation.react (conversation.count connection.memory) content = .refuse failure
  · obtain ⟨failure, refuses⟩ := refuses
    have arrives := Connection.step_text_of_refuse receiving running refuses
    have lasting := good _ _ _ refuses
    have possible : ∃ next effects,
        step options conversation state (.connection (.received (.ok (.text content)))) =
          some (next, effects) := by
      simp only [step, connected, permits, arrives, Option.map_some, if_true]
      exact ⟨_, _, rfl⟩
    obtain ⟨next, effects, possible⟩ := possible
    have move := move_of_step possible
    have breaks (later : Connection.State Memory) (done : List (Connection.Effect Delivery))
        (steps : Connection.step conversation connection (.received (.ok (.text content))) =
          some (later, done)) :
        later.failure = some failure ∧ later.stopped = true ∧ later.reader.isDone = true := by
      cases arrives.symm.trans steps
      have first : (connection.failure <|> some failure) = some failure := by rw [unfailing]; rfl
      exact ⟨first, rfl, rfl⟩
    obtain ⟨doomed, quiet⟩ := doomed_of_connection lasting connected breaks move
    have held : next.isAbandoning = false := by
      cases move with
      | works event held later done holds permitted steps goes phase =>
          rw [phase]
          rfl
      | ends event held later done holds permitted steps ended concludes =>
          exact held_of_conclusion concludes
    exact ⟨next, effects, possible, quiet,
      .refused failure refuses (ends_over_of_doomed doomed held lasting)⟩
  · have accepts (failure : Failure) :
        conversation.react (conversation.count connection.memory) content ≠ .refuse failure :=
      fun refused => refuses ⟨failure, refused⟩
    obtain ⟨later, done, steps, kept, going, goes⟩ :=
      Connection.step_text_of_accept receiving running accepts
    exact ⟨_, _, step_of_connection connected rfl steps goes, no_dial_of_connection done,
      .accepted later rfl going (kept.trans unfailing) accepts⟩

/-- A connection that was stopped does not look at the texts that still arrive. -/
theorem step_of_text_of_stopped (connected : state.phase = .connected connection)
    (stopped : connection.stopped = true) (content other : Bytes) :
    step options conversation state (.connection (.received (.ok (.text content)))) =
      step options conversation state (.connection (.received (.ok (.text other)))) := by
  simp only [step, connected, Connection.step, Connection.receive, stopped, if_true]
  rfl

end

end Session

end NodeBridge
