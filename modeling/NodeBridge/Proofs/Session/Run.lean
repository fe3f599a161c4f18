import NodeBridge.Session.Lifecycle

/-!
Runs of a session. What one event can do to a session is said here once: a line is opened, the
stored points are loaded, the line is abandoned because they cannot be loaded or written, the
connection goes on, an attempt at one comes to its end, the session is asked to stop, or a pause
is over. What a run keeps is derived from that.
-/

namespace NodeBridge.Session

section

variable {Memory Delivery : Type}

/-- What follows the end of an attempt at a connection: the session is over, it dials at once,
it pauses before it dials, or it gives up because it was asked to stop. -/
inductive Conclusion (options : Options) (state next : State Memory) (result : Option Failure)
    (effects : List (Effect Delivery)) : Prop where
  | settles (phase : next = { state with phase := .ended result }) (nothing : effects = [])
      (lasting : ∀ failure, result = some failure → options.reconnect = true →
        failure.isTemporary = false)
  | redials (failure : Failure) (failed : result = some failure)
      (reconnects : options.reconnect = true) (temporary : failure.isTemporary = true)
      (prompt : options.delay = 0) (phase : next = { state with phase := .dialing })
      (notes : effects = [.log (retryMessage options.delay failure), .dial])
  | pauses (message : String) (running : state.stopping = false)
      (phase : next = { state with phase := .pausing }) (notes : effects = [.log message])
      (reconnects : options.reconnect = true)
      (temporary : ∃ failure, result = some failure ∧ failure.isTemporary = true)
  | desists (message : String) (stopping : state.stopping = true)
      (phase : next = { state with phase := .ended none }) (notes : effects = [.log message])
      (reconnects : options.reconnect = true)
      (temporary : ∃ failure, result = some failure ∧ failure.isTemporary = true)

/-- All that an event can do to a session. -/
inductive Move (options : Options) (conversation : Conversation Memory Delivery)
    (state next : State Memory) : Event → List (Effect Delivery) → Prop where
  | opens (dialing : state.phase = .dialing)
      (phase : next = { state with phase := .loading } ∨
        ∃ stored, next = connect conversation state stored)
      {effects : List (Effect Delivery)} (silent : effects = [.load] ∨ effects = [])
      (waits : options.loads = true → next.phase = .loading) :
      Move options conversation state next (.dialed (.ok ())) effects
  | loads (stored : List Point) (loading : state.phase = .loading)
      (clear : conversation.obstacle? stored = none)
      (phase : next = connect conversation state stored) :
      Move options conversation state next (.loaded (.ok stored)) []
  | abandons (outcome : Except Failure (List Point)) (failure : Failure)
      (loading : state.phase = .loading)
      (phase : next = { state with phase := .abandoning failure })
      (because : (∃ raised, outcome = .error raised ∧
          failure = Duty.retrievePoints.failed raised) ∨
        ∃ stored, outcome = .ok stored ∧ conversation.obstacle? stored = some failure) :
      Move options conversation state next (.loaded outcome) [.connection .close]
  | misses (failure : Failure) (dialing : state.phase = .dialing)
      {effects : List (Effect Delivery)}
      (concludes : Conclusion options state next (some failure) effects) :
      Move options conversation state next (.dialed (.error failure)) effects
  | leaves (outcome : Except Failure Unit) (failure result : Failure)
      (abandoning : state.phase = .abandoning failure) {effects : List (Effect Delivery)}
      (concludes : Conclusion options state next (some result) effects)
      (because : outcome = .ok () ∧ result = failure ∨
        ∃ later, outcome = .error later ∧ result = later.during failure) :
      Move options conversation state next (.abandoned outcome) effects
  | works (event : Connection.Event) (connection later : Connection.State Memory)
      (done : List (Connection.Effect Delivery))
      (connected : state.phase = .connected connection) (permitted : permits state event = true)
      (possible : Connection.step conversation connection event = some (later, done))
      (goes : later.ended = false) (phase : next = { state with phase := .connected later }) :
      Move options conversation state next (.connection event) (done.map .connection)
  | ends (event : Connection.Event) (connection later : Connection.State Memory)
      (done : List (Connection.Effect Delivery)) {more : List (Effect Delivery)}
      (connected : state.phase = .connected connection) (permitted : permits state event = true)
      (possible : Connection.step conversation connection event = some (later, done))
      (ended : later.ended = true)
      (concludes : Conclusion options state next later.failure more) :
      Move options conversation state next (.connection event) (done.map .connection ++ more)
  | stops (asked : next.stopping = true)
      (phase : next.phase = state.phase ∨ state.phase = .pausing ∧ next.phase = .ended none)
      (awake : next.phase ≠ .pausing) :
      Move options conversation state next .stopRequested []
  | wakes (pausing : state.phase = .pausing) (phase : next = { state with phase := .dialing }) :
      Move options conversation state next .pauseElapsed [.dial]

variable {options : Options} {conversation : Conversation Memory Delivery}
  {state next last : State Memory} {event : Event} {effects : List (Effect Delivery)}
  {events : List Event} {told before after : List (Event × List (Effect Delivery))}

theorem conclude_cases (result : Option Failure)
    (concludes : conclude options state result = (next, effects)) :
    Conclusion options state next result effects := by
  cases result with
  | none =>
      obtain ⟨rfl, rfl⟩ := Prod.mk.inj concludes
      exact .settles rfl rfl fun failure none => by cases none
  | some failure =>
      simp only [conclude] at concludes
      split at concludes
      · next again =>
          rw [Bool.and_eq_true] at again
          split at concludes
          · next prompt =>
              obtain ⟨rfl, rfl⟩ := Prod.mk.inj concludes
              exact .redials failure rfl again.1 again.2 prompt rfl rfl
          · split at concludes
            · next stopping =>
                obtain ⟨rfl, rfl⟩ := Prod.mk.inj concludes
                exact .desists _ stopping rfl rfl again.1 ⟨failure, rfl, again.2⟩
            · next running =>
                obtain ⟨rfl, rfl⟩ := Prod.mk.inj concludes
                exact .pauses _ (by simpa using running) rfl rfl again.1 ⟨failure, rfl, again.2⟩
      · next final =>
          obtain ⟨rfl, rfl⟩ := Prod.mk.inj concludes
          refine .settles rfl rfl ?_
          intro other same reconnects
          cases same
          simpa [reconnects] using final

theorem move_of_connection {connection : Connection.State Memory} {event : Connection.Event}
    (connected : state.phase = .connected connection)
    (possible : step options conversation state (.connection event) = some (next, effects)) :
    Move options conversation state next (.connection event) effects := by
  simp only [step, connected] at possible
  split at possible
  · next permitted =>
      obtain ⟨⟨later, done⟩, moved, adopted⟩ := Option.map_eq_some_iff.mp possible
      simp only [adopt] at adopted
      cases ended : later.ended with
      | true =>
          simp only [ended, if_true] at adopted
          obtain ⟨rfl, rfl⟩ := Prod.mk.inj adopted
          exact .ends event connection later done connected permitted moved ended
            (conclude_cases later.failure rfl)
      | false =>
          simp only [ended, Bool.false_eq_true, if_false] at adopted
          obtain ⟨rfl, rfl⟩ := Prod.mk.inj adopted
          exact .works event connection later done connected permitted moved ended rfl
  · cases possible

theorem move_of_load {outcome : Except Failure (List Point)}
    (possible : step options conversation state (.loaded outcome) = some (next, effects)) :
    Move options conversation state next (.loaded outcome) effects := by
  simp only [step] at possible
  split at possible
  · next stored loading =>
      cases obstacle : conversation.obstacle? stored with
      | none =>
          simp only [begin, obstacle] at possible
          cases possible
          exact .loads stored loading obstacle rfl
      | some failure =>
          simp only [begin, obstacle, abandon] at possible
          cases possible
          exact .abandons _ failure loading rfl (.inr ⟨stored, rfl, obstacle⟩)
  · next raised loading =>
      cases possible
      exact .abandons _ _ loading rfl (.inl ⟨raised, rfl, rfl⟩)
  · cases possible

theorem move_of_stop (possible : step options conversation state .stopRequested =
      some (next, effects)) :
    Move options conversation state next .stopRequested effects := by
  simp only [step] at possible
  split at possible
  · cases possible
  · next pausing =>
      cases possible
      exact .stops rfl (.inr ⟨pausing, rfl⟩) (by simp)
  · next phase awake =>
      cases possible
      exact .stops rfl (.inl rfl) awake

theorem move_of_step (possible : step options conversation state event = some (next, effects)) :
    Move options conversation state next event effects := by
  cases event with
  | dialed outcome =>
      simp only [step] at possible
      split at possible
      · next dialing =>
          split at possible
          · cases possible
            exact .opens dialing (.inl rfl) (.inl rfl) fun _ => rfl
          · next direct =>
              cases possible
              exact .opens dialing (.inr ⟨[], rfl⟩) (.inr rfl) fun loads => absurd loads direct
      · next failure dialing =>
          exact .misses failure dialing (conclude_cases _ (Option.some.inj possible))
      · cases possible
  | loaded outcome => exact move_of_load possible
  | abandoned outcome =>
      simp only [step] at possible
      split at possible
      · next failure _ abandoning =>
          exact .leaves _ failure _ abandoning (conclude_cases _ (Option.some.inj possible))
            (.inl ⟨rfl, rfl⟩)
      · next failure later abandoning =>
          exact .leaves _ failure _ abandoning (conclude_cases _ (Option.some.inj possible))
            (.inr ⟨later, rfl, rfl⟩)
      · cases possible
  | connection event =>
      cases connected : state.phase with
      | connected connection => exact move_of_connection connected possible
      | dialing | loading | abandoning failure | pausing | ended result =>
          simp [step, connected] at possible
  | stopRequested => exact move_of_stop possible
  | pauseElapsed =>
      simp only [step] at possible
      split at possible
      · next pausing =>
          cases possible
          exact .wakes pausing rfl
      · cases possible

/-- A run over some events begins with the step that the first of them makes. -/
theorem step_of_run
    (ran : run options conversation state (event :: events) = some (last, told)) :
    ∃ next effects after, step options conversation state event = some (next, effects) ∧
      run options conversation next events = some (last, after) ∧
      told = (event, effects) :: after := by
  simp only [run, Option.bind_eq_bind, Option.bind_eq_some_iff, Option.some.injEq,
    Prod.mk.injEq, Prod.exists] at ran
  obtain ⟨next, effects, possible, final, after, ran, rfl, rfl⟩ := ran
  exact ⟨next, effects, after, possible, ran, rfl⟩

theorem run_nil (ran : run options conversation state events = some (last, [])) :
    last = state := by
  cases events with
  | nil =>
      cases ran
      rfl
  | cons event events =>
      obtain ⟨next, effects, after, -, -, begins⟩ := step_of_run ran
      cases begins

theorem run_cons (ran : run options conversation state events = some (last, told))
    {turn : Event × List (Effect Delivery)} (begins : told = turn :: after) :
    ∃ next rest, step options conversation state turn.1 = some (next, turn.2) ∧
      run options conversation next rest = some (last, after) := by
  subst begins
  cases events with
  | nil => simp [run] at ran
  | cons event events =>
      obtain ⟨next, effects, later, possible, ran, same⟩ := step_of_run ran
      cases same
      exact ⟨next, events, possible, ran⟩

/-- A run goes through a state between any two of its turns. -/
theorem run_split (ran : run options conversation state events = some (last, before ++ after)) :
    ∃ middle first second, run options conversation state first = some (middle, before) ∧
      run options conversation middle second = some (last, after) := by
  induction before generalizing state events with
  | nil => exact ⟨state, [], events, rfl, ran⟩
  | cons turn before induction =>
      obtain ⟨next, rest, possible, ran⟩ := run_cons ran rfl
      obtain ⟨middle, first, second, early, late⟩ := induction ran
      exact ⟨middle, turn.1 :: first, second, by simp [run, possible, early], late⟩

/-- What every step keeps holds at the end of a run if it holds at its start. -/
theorem holds_of_run {Holds : State Memory → Prop}
    (keeps : ∀ {state next event effects}, Holds state →
      step options conversation state event = some (next, effects) → Holds next)
    (holds : Holds state) (ran : run options conversation state events = some (last, told)) :
    Holds last := by
  induction told generalizing state events with
  | nil => exact run_nil ran ▸ holds
  | cons turn told induction =>
      obtain ⟨next, rest, possible, ran⟩ := run_cons ran rfl
      exact induction (keeps holds possible) ran

end

end NodeBridge.Session
