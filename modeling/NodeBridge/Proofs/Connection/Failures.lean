import NodeBridge.Proofs.Connection.Conservation

/-!
What a connection makes of failures. The first failure counts and stays what it is. A failure
is worth trying again exactly if something behind it is, whichever duty it went through; so as
long as nothing of the kind is reported from outside, a connection fails for good.
-/

namespace NodeBridge

namespace Failure

variable {failure earlier : Failure}

/-- A duty adds nothing temporary to what made it fail. -/
@[simp] theorem is_temporary_failed (duty : Duty) (cause : Failure) :
    (duty.failed cause).isTemporary = cause.isTemporary := rfl

theorem chain_passes_append (fault : Fault) (trail : List (FaultLink × Fault))
    (earlier : Failure) :
    chainPasses fault (trail ++ (.context, earlier.fault) :: earlier.trail) =
      (chainPasses fault trail || earlier.isTemporary) := by
  induction trail generalizing fault with
  | nil => simp [chainPasses, isTemporary]
  | cons link trail induction => simp [chainPasses, induction, Bool.or_assoc]

@[simp] theorem is_temporary_during :
    (failure.during earlier).isTemporary = (failure.isTemporary || earlier.isTemporary) :=
  chain_passes_append failure.fault failure.trail earlier

end Failure

/-- A conversation that refuses a frame only over what trying again would not mend. -/
def Conversation.RefusesForGood {Memory Delivery : Type}
    (conversation : Conversation Memory Delivery) : Prop :=
  ∀ memory content failure, conversation.react memory content = .refuse failure →
    failure.isTemporary = false

namespace Connection

/-- What went wrong outside when an event happened. -/
def Event.failure? : Event → Option Failure
  | .closed (.error failure) | .sent (.error failure) | .received (.error failure)
  | .ponged (.error failure) | .called (.error failure) | .saved (.error failure) => some failure
  | _ => none

/-- Whether something that is worth trying again went wrong outside. -/
def Event.isPassing (event : Event) : Bool := event.failure?.any Failure.isTemporary

section

variable {Memory Delivery : Type}

/-- Whether the last point is being saved. -/
def Reader.isParting : Reader Memory → Bool
  | .parting _ => true
  | _ => false

/-- Where a failure of a connection stems from: it was reported from outside, perhaps while
another one was dealt with, or the conversation refused a frame. -/
inductive Stems (conversation : Conversation Memory Delivery) (state : State Memory)
    (event : Event) (failure : Failure) : Prop where
  | reported (raised : Failure) (reports : event.failure? = some raised)
      (told : failure = raised ∨ ∃ duty : Duty, failure = duty.failed raised)
  | meanwhile (raised context : Failure) (reports : event.failure? = some raised)
      (parting : state.reader = .parting (some context))
      (told : failure = Duty.save.failed (raised.during context))
  | refused (memory : Memory) (content : Bytes)
      (reacts : conversation.react memory content = .refuse failure)

/-- All that a step does to the failures of a connection: it leaves the failure as it is or
adds one that counts if it is the first, and it may take a failure of the line along into the
last save. -/
structure Failing (conversation : Conversation Memory Delivery) (state next : State Memory)
    (event : Event) : Prop where
  failure : next.failure = state.failure ∨
    ∃ failure, next.failure = (state.failure <|> some failure) ∧
      Stems conversation state event failure
  context : ∀ failure, next.reader = .parting (some failure) →
    state.reader = .parting (some failure) ∨ event.failure? = some failure

variable {conversation : Conversation Memory Delivery} {state next : State Memory}
  {event : Event} {effects : List (Effect Delivery)} {failure : Failure}

theorem failing_of_quiet (kept : next.failure = state.failure)
    (reader : next.reader = state.reader ∨ next.reader.isParting = false) :
    Failing conversation state next event := by
  refine ⟨.inl kept, ?_⟩
  intro context parting
  rcases reader with same | other
  · exact .inl (same ▸ parting)
  · rw [parting] at other
    cases other

theorem failing_of_failure (failed : next.failure = (state.failure <|> some failure))
    (stems : Stems conversation state event failure)
    (reader : next.reader = state.reader ∨ next.reader = .ended) :
    Failing conversation state next event := by
  refine ⟨.inr ⟨failure, failed, stems⟩, ?_⟩
  intro context parting
  rcases reader with same | ended
  · exact .inl (same ▸ parting)
  · cases ended.symm.trans parting

theorem failing_of_part {parted : State Memory} {context : Option Failure}
    (kept : parted.failure = state.failure)
    (reports : ∀ failure, context = some failure → event.failure? = some failure) :
    Failing conversation state (part conversation parted context).1 event := by
  unfold part
  split
  · refine ⟨.inl kept, ?_⟩
    intro failure parting
    rw [Reader.parting.injEq] at parting
    exact .inr (reports failure parting)
  · exact failing_of_quiet kept (.inr rfl)

theorem failing_of_receive (outcome : Except Failure Frame) :
    Failing conversation state (receive conversation state outcome).1 (.received outcome) := by
  have listens {after : State Memory} (kept : after.failure = state.failure)
      (reader : after.reader.isParting = false) :
      Failing conversation state after (.received outcome) := failing_of_quiet kept (.inr reader)
  cases outcome with
  | error failure =>
      simp only [receive]
      split
      · exact failing_of_part rfl fun _ same => same
      · exact failing_of_failure rfl (.reported failure rfl (.inr ⟨.read, rfl⟩)) (.inr rfl)
  | ok frame =>
      simp only [receive]
      split
      · exact failing_of_part rfl (by simp)
      · cases frame with
        | binary content | pong content => exact failing_of_quiet rfl (.inl rfl)
        | ping content => exact listens rfl rfl
        | close => exact failing_of_part rfl (by simp)
        | text content =>
            simp only [handle]
            split
            · exact listens rfl rfl
            · exact listens rfl rfl
            · next failure reacts =>
                exact failing_of_failure rfl (.refused _ _ reacts) (.inr rfl)

theorem failing_of_step (possible : step conversation state event = some (next, effects)) :
    Failing conversation state next event := by
  cases event with
  | received outcome =>
      simp only [step] at possible
      split at possible
      · have failing : Failing conversation state (receive conversation state outcome).1
            (.received outcome) := failing_of_receive outcome
        rwa [Option.some.inj possible] at failing
      · cases possible
  | closed outcome =>
      simp only [step] at possible
      split at possible
      · split at possible
        · cases possible
          exact failing_of_quiet rfl (.inl rfl)
        · next failure =>
            cases possible
            exact failing_of_failure rfl (.reported failure rfl (.inl rfl)) (.inl rfl)
      · cases possible
  | sent outcome =>
      simp only [step] at possible
      split at possible
      · cases possible
        exact failing_of_quiet rfl (.inl rfl)
      · next request failure sending =>
          split at possible
          · cases possible
            exact failing_of_quiet rfl (.inl rfl)
          · cases possible
            exact failing_of_failure rfl (.reported failure rfl (.inr ⟨request.duty, rfl⟩))
              (.inl rfl)
      · cases possible
  | ponged outcome =>
      simp only [step] at possible
      split at possible
      · cases possible
        exact failing_of_quiet rfl (.inr rfl)
      · next failure ponging =>
          cases possible
          exact failing_of_failure rfl (.reported failure rfl (.inr ⟨.pong, rfl⟩)) (.inr rfl)
      · cases possible
  | called outcome =>
      obtain ⟨save, memory, requests, calling, ends⟩ := step_called possible
      rcases ends with ⟨point, rfl, -, -, rfl⟩ | ⟨rfl, -, -, rfl⟩ | ⟨failure, rfl, -, rfl⟩
      · exact failing_of_quiet rfl (.inr rfl)
      · exact failing_of_quiet rfl (.inr rfl)
      · exact failing_of_failure rfl
          (.reported failure rfl (.inr ⟨conversation.delivering, rfl⟩)) (.inr rfl)
  | saved outcome =>
      simp only [step] at possible
      split at possible
      · cases possible
        exact failing_of_quiet rfl (.inr rfl)
      · next failure saving =>
          cases possible
          exact failing_of_failure rfl (.reported failure rfl (.inr ⟨.save, rfl⟩)) (.inr rfl)
      · cases possible
        exact failing_of_quiet rfl (.inr rfl)
      · next context failure parting =>
          cases possible
          refine failing_of_failure rfl ?_ (.inr rfl)
          cases context with
          | none => exact .reported failure rfl (.inr ⟨.save, rfl⟩)
          | some context => exact .meanwhile failure context rfl parting rfl
      · cases possible
  | readerStarts =>
      obtain ⟨-, -, rfl⟩ := step_starts possible
      exact failing_of_quiet rfl (.inr rfl)
  | supervisorStarts | supervisorStops | stopFollowed | closerWakes | writerStarts |
    writerTakes | writerResumes | writerQuits =>
      simp only [step] at possible
      repeat' split at possible
      all_goals cases possible
      all_goals exact failing_of_quiet rfl (.inl rfl)

/-- The first failure stays the failure of the connection. -/
theorem failure_of_step (failed : state.failure = some failure)
    (possible : step conversation state event = some (next, effects)) :
    next.failure = some failure := by
  rcases (failing_of_step possible).failure with same | ⟨other, added, -⟩
  · rw [same, failed]
  · rw [added, failed]
    rfl

/-- A connection that fails is stopped. -/
theorem failure_of_running (possible : step conversation state event = some (next, effects))
    (running : next.stopped = false) : next.failure = state.failure := by
  cases event with
  | received outcome =>
      simp only [step] at possible
      split at possible
      · simp only [receive, handle, part] at possible
        repeat' split at possible
        all_goals
          cases possible
          first
            | rfl
            | cases running
      · cases possible
  | supervisorStarts | supervisorStops | stopFollowed | closerWakes | closed outcome
  | writerStarts | writerTakes | writerResumes | writerQuits | sent outcome | readerStarts
  | ponged outcome | called outcome | saved outcome =>
      simp only [step] at possible
      repeat' split at possible
      all_goals
        cases possible
        try first
          | rfl
          | cases running

theorem unfailing_of_running (reached : Reached conversation stored past state)
    (running : state.stopped = false) : state.failure = none := by
  induction reached with
  | start => rfl
  | step reached possible induction =>
      rw [failure_of_running possible running]
      exact induction (running_of_step running possible)

/-- A connection that holds no failure that is worth trying again. -/
structure State.Lasting (state : State Memory) : Prop where
  failure : ∀ failure, state.failure = some failure → failure.isTemporary = false
  context : ∀ failure, state.reader = .parting (some failure) → failure.isTemporary = false

variable (conversation) in
theorem lasting_of_start (stored : List Point) : (State.start conversation stored).Lasting :=
  ⟨nofun, nofun⟩

theorem lasting_of_stems (good : conversation.RefusesForGood) (lasting : state.Lasting)
    (calm : event.isPassing = false) (stems : Stems conversation state event failure) :
    failure.isTemporary = false := by
  have quiet {raised : Failure} (reports : event.failure? = some raised) :
      raised.isTemporary = false := by
    simpa [Event.isPassing, reports] using calm
  cases stems with
  | reported raised reports told =>
      rcases told with rfl | ⟨duty, rfl⟩
      · exact quiet reports
      · rw [Failure.is_temporary_failed]
        exact quiet reports
  | meanwhile raised context reports parting told =>
      rw [told, Failure.is_temporary_failed, Failure.is_temporary_during, quiet reports,
        lasting.context context parting]
      rfl
  | refused memory content reacts => exact good memory content failure reacts

theorem lasting_of_step (good : conversation.RefusesForGood) (lasting : state.Lasting)
    (calm : event.isPassing = false)
    (possible : step conversation state event = some (next, effects)) : next.Lasting := by
  have failing := failing_of_step possible
  constructor
  · intro failure failed
    rcases failing.failure with same | ⟨other, added, stems⟩
    · exact lasting.failure failure (same ▸ failed)
    · rw [added] at failed
      cases before : state.failure with
      | none =>
          rw [before] at failed
          cases failed
          exact lasting_of_stems good lasting calm stems
      | some earlier =>
          rw [before] at failed
          cases failed
          exact lasting.failure _ before
  · intro context parting
    rcases failing.context context parting with same | reports
    · exact lasting.context context same
    · simpa [Event.isPassing, reports] using calm

/-- What a connection makes of a callback or a store that fails. A failure of the line that the
last save was dealing with comes along with the failure of that save. -/
inductive Blames (conversation : Conversation Memory Delivery) (state : State Memory) :
    Event → Failure → Prop where
  | callback (raised : Failure) :
      Blames conversation state (.called (.error raised)) (conversation.delivering.failed raised)
  | save (raised : Failure) (alone : ∀ context, state.reader ≠ .parting (some context)) :
      Blames conversation state (.saved (.error raised)) (Duty.save.failed raised)
  | lastSave (raised context : Failure) (parting : state.reader = .parting (some context)) :
      Blames conversation state (.saved (.error raised))
        (Duty.save.failed (raised.during context))

/-- A callback or a store that fails breaks the connection off, over that failure unless
something had gone wrong before. -/
theorem broken_of_blame (blames : Blames conversation state event failure)
    (possible : step conversation state event = some (next, effects)) :
    next = state.failReader failure ∧ next.failure = some (state.failure.getD failure) := by
  have first {failure : Failure} :
      (state.failReader failure).failure = some (state.failure.getD failure) := by
    simp only [State.failReader, State.endReader, State.fail]
    cases state.failure <;> rfl
  cases blames with
  | callback raised =>
      obtain ⟨save, memory, requests, -, ends⟩ := step_called possible
      rcases ends with ⟨point, taken, -⟩ | ⟨taken, -⟩ | ⟨failure, refused, -, rfl⟩
      · cases taken
      · cases taken
      · cases refused
        exact ⟨rfl, first⟩
  | save raised alone =>
      cases reader : state.reader with
      | saving memory requests =>
          simp only [step, reader] at possible
          cases possible
          exact ⟨rfl, first⟩
      | parting context =>
          cases context with
          | none =>
              simp only [step, reader] at possible
              cases possible
              exact ⟨rfl, first⟩
          | some context => exact absurd reader (alone context)
      | starting | receiving | ponging | calling save memory requests | ended =>
          simp only [step, reader] at possible
          cases possible
  | lastSave raised context parting =>
      simp only [step, parting] at possible
      cases possible
      exact ⟨rfl, first⟩

end

end Connection

end NodeBridge
