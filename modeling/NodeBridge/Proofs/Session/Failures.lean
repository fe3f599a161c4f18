import NodeBridge.Proofs.Connection.Failures
import NodeBridge.Proofs.Follower.Steadfast
import NodeBridge.Proofs.Session.Connections
import NodeBridge.Proofs.Session.Stopping

/-!
What a session makes of failures. It dials again only if it reconnects and something that is
worth trying again went wrong since the last dial; who reported it makes no difference. A
callback or a store that fails for good ends the session, over the failure that came first.
-/

namespace NodeBridge

theorem ChainFollower.refuses_for_good (options : Options) :
    (conversation options).RefusesForGood := by
  intro memory content failure refuses
  exact absurd refuses (never_refuses options memory content failure)

namespace MempoolWatcher

theorem Complaint.lasting (complaint : Complaint) : complaint.failure.isTemporary = false := by
  cases complaint <;> rfl

theorem refuses_for_good : conversation.RefusesForGood := by
  intro memory content failure refuses
  simp only [conversation, react] at refuses
  split at refuses
  · simp only [answer] at refuses
    repeat' split at refuses
    all_goals cases refuses
    · rfl
    · exact Complaint.lasting _
    · exact Complaint.lasting _
  · cases refuses
    exact Complaint.lasting _

end MempoolWatcher

namespace Conversation

variable {Memory Delivery : Type} {conversation : Conversation Memory Delivery}
  {stored : List Point} {failure : Failure}

/-- An opening that cannot be written will not be written the next time either. -/
theorem lasting_of_obstacle (obstacle : conversation.obstacle? stored = some failure) :
    failure.isTemporary = false := by
  obtain ⟨request, -, fails⟩ := Option.bind_eq_some_iff.mp obstacle
  unfold Request.failure? at fails
  split at fails
  · cases fails
  · cases fails
    rfl

end Conversation

namespace Session

/-- What went wrong outside when an event happened. -/
def Event.failure? : Event → Option Failure
  | .dialed (.error failure) | .loaded (.error failure) | .abandoned (.error failure) =>
      some failure
  | .connection event => event.failure?
  | _ => none

/-- Whether something that is worth trying again went wrong outside. -/
def Event.isPassing (event : Event) : Bool := event.failure?.any Failure.isTemporary

section

variable {Memory Delivery : Type}

/-- The turns that follow upon the latest dial. -/
def sinceDial (told : List (Event × List (Effect Delivery))) :
    List (Event × List (Effect Delivery)) :=
  told.rtakeWhile fun turn => !turn.2.any Effect.dials

/-- A session that has nothing to try again for. -/
def State.Lasting (state : State Memory) : Prop :=
  match state.phase with
  | .connected connection => connection.Lasting
  | .abandoning failure => failure.isTemporary = false
  | .pausing => False
  | _ => True

/-- Where a session stands after some turns: unless something passing went wrong since the last
dial, it has nothing to try again for. -/
structure Accounted (options : Options) (told : List (Event × List (Effect Delivery)))
    (state : State Memory) : Prop where
  cause : (∃ turn ∈ sinceDial told, turn.1.isPassing = true) ∨ state.Lasting
  pause : state.phase = .pausing → options.reconnect = true

/-- The failure of a session whose callback or store fails: it is the failure of that duty,
unless the connection had failed before. -/
inductive Blames (conversation : Conversation Memory Delivery) (state : State Memory) :
    Event → Failure → Prop where
  | load (raised : Failure) :
      Blames conversation state (.loaded (.error raised)) (Duty.retrievePoints.failed raised)
  | connection (event : Connection.Event) (connection : Connection.State Memory)
      (failure : Failure) (connected : state.phase = .connected connection)
      (blames : Connection.Blames conversation connection event failure) :
      Blames conversation state (.connection event) (connection.failure.getD failure)

/-- A session that can only end over a failure, or has done so. -/
def State.Doomed (state : State Memory) (failure : Failure) : Prop :=
  match state.phase with
  | .connected connection =>
      connection.failure = some failure ∧ connection.stopped = true ∧
        connection.reader.isDone = true ∧ connection.ended = false
  | .abandoning held => held = failure
  | .ended result => result = some failure
  | _ => False

/-- A session that is not over with a failure that is worth trying again. -/
def State.EndsForGood (state : State Memory) : Prop :=
  ∀ failure, state.failure? = some failure → failure.isTemporary = false

/-- The failures that a session ends over once it is doomed. Closing a line on which nothing
was said may fail as well, and then that failure is told with the first one behind it. -/
def Outcomes (events : List Event) (failure final : Failure) : Prop :=
  final = failure ∨
    ∃ later, .abandoned (.error later) ∈ events ∧ final = later.during failure

/-- What a session makes of failures, over all its runs. -/
structure RetriesOnlyPassing (options : Options) (conversation : Conversation Memory Delivery) :
    Prop where
  /-- Over a callback or a store that fails for good, whatever happens next, the session does
  not dial again; it cannot stand still before it is over, and it is over with that failure. -/
  fatal : ∀ state event failure events last told,
    Blames conversation state event failure → failure.isTemporary = false →
    (∀ later, .abandoned (.error later) ∈ events → later.isTemporary = false) →
    run options conversation state (event :: events) = some (last, told) →
      (∀ turn ∈ told, turn.2.any Effect.dials = false) ∧
      (last.IsQuiescent options conversation → last.isEnded = true) ∧
      (last.isEnded = true → ∃ final, last.failure? = some final ∧ Outcomes events failure final)
  /-- A dial is made again only by a session that reconnects, after something passing. -/
  retried : ∀ events last before turn after,
    run options conversation .initial events = some (last, before ++ turn :: after) →
    turn.2.any Effect.dials = true →
      options.reconnect = true ∧
      ∃ cause ∈ sinceDial before ++ [turn], cause.1.isPassing = true
  /-- A session that reconnects never ends over something passing. -/
  terminal : ∀ events last told failure,
    run options conversation .initial events = some (last, told) →
    options.reconnect = true → last.failure? = some failure → failure.isTemporary = false

variable {options : Options} {conversation : Conversation Memory Delivery}
  {state next last : State Memory} {event : Event} {effects : List (Effect Delivery)}
  {events : List Event} {told : List (Event × List (Effect Delivery))}
  {turn : Event × List (Effect Delivery)} {failure : Failure} {result : Option Failure}

/-! What follows a failure that is not passing. -/

theorem settled_of_conclusion
    (lasting : ∀ failure, result = some failure → failure.isTemporary = false)
    (concludes : Conclusion options state next result effects) :
    next = { state with phase := .ended result } ∧ effects = [] := by
  cases concludes with
  | settles phase nothing => exact ⟨phase, nothing⟩
  | redials failure failed reconnects temporary =>
      cases (lasting failure failed).symm.trans temporary
  | pauses message running phase notes reconnects passing
  | desists message stopping phase notes reconnects passing =>
      obtain ⟨failure, failed, temporary⟩ := passing
      cases (lasting failure failed).symm.trans temporary

theorem settled_of_failure (lasting : failure.isTemporary = false)
    (concludes : Conclusion options state next (some failure) effects) :
    next = { state with phase := .ended (some failure) } ∧ effects = [] := by
  refine settled_of_conclusion ?_ concludes
  rintro other ⟨⟩
  exact lasting

theorem no_dial_of_connection (done : List (Connection.Effect Delivery)) :
    (done.map Effect.connection).any Effect.dials = false := by
  simp [Effect.dials]

theorem dials_after_connection (done : List (Connection.Effect Delivery))
    (more : List (Effect Delivery)) :
    (done.map Effect.connection ++ more).any Effect.dials = more.any Effect.dials := by
  rw [List.any_append, no_dial_of_connection, Bool.false_or]

theorem lasting_of_connect (stored : List Point) :
    (connect conversation state stored).Lasting :=
  Connection.lasting_of_start conversation stored

theorem lasting_of_settled
    (settled : next = { state with phase := .ended result } ∧ effects = []) :
    next.Lasting ∧ effects.any Effect.dials = false := by
  obtain ⟨rfl, rfl⟩ := settled
  exact ⟨trivial, rfl⟩

/-- As long as nothing passing is reported, a session that has nothing to try again for does
not dial. -/
theorem lasting_of_move (good : conversation.RefusesForGood) (lasting : state.Lasting)
    (calm : event.isPassing = false)
    (move : Move options conversation state next event effects) :
    next.Lasting ∧ effects.any Effect.dials = false := by
  have quiet {raised : Failure} (reports : event.failure? = some raised) :
      raised.isTemporary = false := by
    simpa [Event.isPassing, reports] using calm
  cases move with
  | opens dialing phase silent =>
      refine ⟨?_, by rcases silent with rfl | rfl <;> rfl⟩
      rcases phase with rfl | ⟨stored, rfl⟩
      · trivial
      · exact lasting_of_connect stored
  | loads stored loading clear phase => exact ⟨phase ▸ lasting_of_connect stored, rfl⟩
  | abandons outcome held loading phase because =>
      refine ⟨?_, rfl⟩
      rw [phase]
      rcases because with ⟨raised, rfl, rfl⟩ | ⟨stored, rfl, obstacle⟩
      · have lasts : raised.isTemporary = false := quiet rfl
        exact lasts
      · exact Conversation.lasting_of_obstacle obstacle
  | misses raised dialing concludes =>
      have lasts : raised.isTemporary = false := quiet rfl
      exact lasting_of_settled (settled_of_failure lasts concludes)
  | leaves outcome held result abandoning concludes because =>
      have first : held.isTemporary = false := by simpa only [State.Lasting, abandoning] using lasting
      have lasts : result.isTemporary = false := by
        rcases because with ⟨-, rfl⟩ | ⟨later, rfl, rfl⟩
        · exact first
        · rw [Failure.is_temporary_during, first, quiet rfl]
          rfl
      exact lasting_of_settled (settled_of_failure lasts concludes)
  | works event connection later done connected permitted possible goes phase =>
      have held : connection.Lasting := by simpa only [State.Lasting, connected] using lasting
      refine ⟨?_, no_dial_of_connection done⟩
      rw [phase]
      exact Connection.lasting_of_step good held calm possible
  | ends event connection later done connected permitted possible ended concludes =>
      have held : connection.Lasting := by simpa only [State.Lasting, connected] using lasting
      have settled := lasting_of_settled (settled_of_conclusion
        (Connection.lasting_of_step good held calm possible).failure concludes)
      exact ⟨settled.1, (dials_after_connection done _).trans settled.2⟩
  | stops asked phase awake =>
      refine ⟨?_, rfl⟩
      unfold State.Lasting at lasting ⊢
      rcases phase with same | ⟨pausing, finished⟩
      · rw [same]
        exact lasting
      · rw [finished]
        trivial
  | wakes pausing phase =>
      simp only [State.Lasting, pausing] at lasting

/-! What comes of a dial and of a pause. -/

theorem reconnects_of_conclusion (concludes : Conclusion options state next result effects) :
    (effects.any Effect.dials = true → options.reconnect = true ∧ next.phase = .dialing) ∧
      (next.phase = .pausing → options.reconnect = true) := by
  cases concludes with
  | settles phase nothing =>
      rw [phase, nothing]
      exact ⟨nofun, nofun⟩
  | redials failure failed reconnects temporary prompt phase =>
      rw [phase]
      exact ⟨fun _ => ⟨reconnects, rfl⟩, nofun⟩
  | pauses message running phase notes reconnects =>
      rw [notes]
      exact ⟨nofun, fun _ => reconnects⟩
  | desists message stopping phase notes =>
      rw [phase, notes]
      exact ⟨nofun, nofun⟩

/-- Only a session that reconnects dials again or pauses before it does. -/
theorem reconnects_of_move (pause : state.phase = .pausing → options.reconnect = true)
    (move : Move options conversation state next event effects) :
    (effects.any Effect.dials = true → options.reconnect = true ∧ next.phase = .dialing) ∧
      (next.phase = .pausing → options.reconnect = true) := by
  cases move with
  | opens dialing phase silent =>
      refine ⟨by rcases silent with rfl | rfl <;> exact nofun, ?_⟩
      rcases phase with rfl | ⟨stored, rfl⟩ <;> exact nofun
  | loads stored loading clear phase | abandons outcome failure loading phase =>
      rw [phase]
      exact ⟨nofun, nofun⟩
  | misses failure dialing concludes => exact reconnects_of_conclusion concludes
  | leaves outcome failure result abandoning concludes =>
      exact reconnects_of_conclusion concludes
  | works event connection later done connected permitted possible goes phase =>
      rw [phase, no_dial_of_connection]
      exact ⟨nofun, nofun⟩
  | ends event connection later done connected permitted possible ended concludes =>
      rw [dials_after_connection]
      exact reconnects_of_conclusion concludes
  | stops asked phase awake => exact ⟨nofun, fun pausing => absurd pausing awake⟩
  | wakes pausing phase =>
      rw [phase]
      exact ⟨fun _ => ⟨pause pausing, rfl⟩, nofun⟩

theorem since_dial_snoc (quiet : turn.2.any Effect.dials = false) :
    sinceDial (told ++ [turn]) = sinceDial told ++ [turn] := by
  simp [sinceDial, quiet]

theorem accounted_snoc (good : conversation.RefusesForGood)
    (accounted : Accounted options told state)
    (possible : step options conversation state event = some (next, effects)) :
    Accounted options (told ++ [(event, effects)]) next := by
  have move := move_of_step possible
  obtain ⟨dialing, pausing⟩ := reconnects_of_move accounted.pause move
  refine ⟨?_, pausing⟩
  cases dials : effects.any Effect.dials with
  | true =>
      right
      simp only [State.Lasting, (dialing dials).2]
  | false =>
      rw [since_dial_snoc dials]
      cases passing : event.isPassing with
      | true => exact .inl ⟨_, List.mem_append_right _ (List.mem_singleton.mpr rfl), passing⟩
      | false =>
          rcases accounted.cause with ⟨cause, member, passed⟩ | lasting
          · exact .inl ⟨cause, List.mem_append_left _ member, passed⟩
          · exact .inr (lasting_of_move good lasting passing move).1

/-- Behind every dial but the first one there is something passing. -/
theorem cause_of_dial (good : conversation.RefusesForGood)
    (accounted : Accounted options told state)
    (possible : step options conversation state event = some (next, effects))
    (dials : effects.any Effect.dials = true) :
    options.reconnect = true ∧
      ∃ cause ∈ sinceDial told ++ [(event, effects)], cause.1.isPassing = true := by
  have move := move_of_step possible
  refine ⟨((reconnects_of_move accounted.pause move).1 dials).1, ?_⟩
  rcases accounted.cause with ⟨cause, member, passed⟩ | lasting
  · exact ⟨cause, List.mem_append_left _ member, passed⟩
  · cases passing : event.isPassing with
    | true => exact ⟨_, List.mem_append_right _ (List.mem_singleton.mpr rfl), passing⟩
    | false =>
        have quiet := (lasting_of_move good lasting passing move).2
        cases quiet.symm.trans dials

/-! How a session ends over a failure. -/

theorem doomed_of_settled
    (settled : next = { state with phase := .ended (some failure) } ∧ effects = []) :
    next.Doomed failure ∧ effects.any Effect.dials = false := by
  obtain ⟨rfl, rfl⟩ := settled
  exact ⟨rfl, rfl⟩

/-- A connection that is broken off over a failure that is not passing dooms its session. -/
theorem doomed_of_connection {event : Connection.Event} {connection : Connection.State Memory}
    (lasting : failure.isTemporary = false) (connected : state.phase = .connected connection)
    (breaks : ∀ later done, Connection.step conversation connection event = some (later, done) →
      later.failure = some failure ∧ later.stopped = true ∧ later.reader.isDone = true)
    (move : Move options conversation state next (.connection event) effects) :
    next.Doomed failure ∧ effects.any Effect.dials = false := by
  cases move with
  | works event held later done holds permitted possible goes phase =>
      cases connected.symm.trans holds
      obtain ⟨failed, stopped, finished⟩ := breaks later done possible
      rw [phase]
      exact ⟨⟨failed, stopped, finished, goes⟩, no_dial_of_connection done⟩
  | ends event held later done holds permitted possible ended concludes =>
      cases connected.symm.trans holds
      rw [(breaks later done possible).1] at concludes
      have doomed := doomed_of_settled (settled_of_failure lasting concludes)
      exact ⟨doomed.1, (dials_after_connection done _).trans doomed.2⟩

theorem doomed_of_blame (blames : Blames conversation state event failure)
    (lasting : failure.isTemporary = false)
    (move : Move options conversation state next event effects) :
    next.Doomed failure ∧ effects.any Effect.dials = false := by
  cases blames with
  | load raised =>
      cases move with
      | abandons outcome held loading phase because =>
          rw [phase]
          rcases because with ⟨other, same, rfl⟩ | ⟨stored, loaded, -⟩
          · cases same
            exact ⟨rfl, rfl⟩
          · cases loaded
  | connection event connection blamed connected blames =>
      refine doomed_of_connection lasting connected ?_ move
      intro later done possible
      obtain ⟨rfl, failed⟩ := Connection.broken_of_blame blames possible
      exact ⟨failed, rfl, rfl⟩

theorem doomed_of_move (doomed : state.Doomed failure) (lasting : failure.isTemporary = false)
    (closes : ∀ closing, event = .abandoned (.error closing) → closing.isTemporary = false)
    (move : Move options conversation state next event effects) :
    effects.any Effect.dials = false ∧
      (next.Doomed failure ∨ ∃ closing, event = .abandoned (.error closing) ∧
        next.phase = .ended (some (closing.during failure))) := by
  have whole := move
  unfold State.Doomed at doomed
  cases move with
  | opens dialing | misses raised dialing => simp only [dialing] at doomed
  | loads stored loading | abandons outcome held loading => simp only [loading] at doomed
  | wakes pausing => simp only [pausing] at doomed
  | leaves outcome held result abandoning concludes because =>
      simp only [abandoning] at doomed
      subst doomed
      rcases because with ⟨-, rfl⟩ | ⟨later, rfl, rfl⟩
      · obtain ⟨ends, quiet⟩ := doomed_of_settled (settled_of_failure lasting concludes)
        exact ⟨quiet, .inl ends⟩
      · have both : (later.during held).isTemporary = false := by
          rw [Failure.is_temporary_during, closes later rfl, lasting]
          rfl
        obtain ⟨rfl, rfl⟩ := settled_of_failure both concludes
        exact ⟨rfl, .inr ⟨later, rfl, rfl⟩⟩
  | stops asked phase awake =>
      refine ⟨rfl, .inl ?_⟩
      rcases phase with same | ⟨pausing, -⟩
      · unfold State.Doomed
        rw [same]
        exact doomed
      · simp only [pausing] at doomed
  | works event connection later done connected | ends event connection later done connected =>
      simp only [connected] at doomed
      obtain ⟨failed, stopped, finished, -⟩ := doomed
      have breaks (later : Connection.State Memory) (done : List (Connection.Effect Delivery))
          (possible : Connection.step conversation connection event = some (later, done)) :
          later.failure = some failure ∧ later.stopped = true ∧
            later.reader.isDone = true :=
        ⟨Connection.failure_of_step failed possible, Connection.stopped_of_step stopped possible,
          (Connection.step_of_done finished possible).1⟩
      obtain ⟨ends, quiet⟩ := doomed_of_connection lasting connected breaks whole
      exact ⟨quiet, .inl ends⟩

theorem doomed_of_run (doomed : state.Doomed failure) (lasting : failure.isTemporary = false)
    (closes : ∀ later, .abandoned (.error later) ∈ events → later.isTemporary = false)
    (ran : run options conversation state events = some (last, told)) :
    (∀ turn ∈ told, turn.2.any Effect.dials = false) ∧
      ∃ final, last.Doomed final ∧ Outcomes events failure final := by
  induction events generalizing state told with
  | nil =>
      cases ran
      exact ⟨by simp, failure, doomed, .inl rfl⟩
  | cons event events induction =>
      obtain ⟨next, effects, after, possible, goes, rfl⟩ := step_of_run ran
      obtain ⟨quiet, same | ⟨closing, rfl, settled⟩⟩ := doomed_of_move doomed lasting
        (fun closing here => closes closing (here ▸ List.mem_cons_self)) (move_of_step possible)
      · obtain ⟨silent, final, ends, outcome⟩ := induction same
          (fun later member => closes later (List.mem_cons_of_mem _ member)) goes
        refine ⟨List.forall_mem_cons.mpr ⟨quiet, silent⟩, final, ends, ?_⟩
        rcases outcome with first | ⟨later, member, told⟩
        · exact .inl first
        · exact .inr ⟨later, List.mem_cons_of_mem _ member, told⟩
      -- The line is closed in error, and the session is over at once.
      · have ended : next.isEnded = true := by simp [State.isEnded, settled]
        have alone : last = next ∧ after = [] := by
          cases events with
          | nil =>
              cases goes
              exact ⟨rfl, rfl⟩
          | cons event events =>
              obtain ⟨more, effects, rest, further, -⟩ := step_of_run goes
              cases (step_of_ended ended event).symm.trans further
        obtain ⟨rfl, rfl⟩ := alone
        refine ⟨by simpa using quiet, closing.during failure, ?_, ?_⟩
        · simp only [State.Doomed, settled]
        · exact .inr ⟨closing, List.mem_cons_self, rfl⟩

/-- A doomed session that stands still is over. -/
theorem ended_of_doomed (doomed : state.Doomed failure)
    (quiescent : state.IsQuiescent options conversation) : state.isEnded = true := by
  unfold State.Doomed at doomed
  cases phase : state.phase with
  | ended result => simp [State.isEnded, phase]
  | dialing | loading | pausing => simp only [phase] at doomed
  | abandoning held =>
      have still := quiescent (.abandoned (.ok ())) rfl
      simp [step, phase] at still
  | connected connection =>
      simp only [phase] at doomed
      obtain ⟨-, stopped, finished, unfinished⟩ := doomed
      have ended := Connection.ended_of_still stopped (still_of_stopped phase stopped quiescent)
        (Connection.calm_of_done finished)
      cases unfinished.symm.trans ended

theorem failure_of_doomed (doomed : state.Doomed failure) (ended : state.isEnded = true) :
    state.failure? = some failure := by
  unfold State.Doomed at doomed
  cases phase : state.phase <;> simp_all [State.isEnded, State.failure?]

/-! A session that reconnects is never over with a failure that is worth trying again. -/

theorem ends_for_good_of_conclusion (reconnects : options.reconnect = true)
    (concludes : Conclusion options state next result effects) : next.EndsForGood := by
  intro failure failed
  cases concludes with
  | settles phase nothing lasting =>
      rw [phase] at failed
      exact lasting failure failed reconnects
  | redials other told again temporary prompt phase | pauses message running phase
  | desists message stopping phase =>
      rw [phase] at failed
      cases failed

theorem ends_for_good_of_step (reconnects : options.reconnect = true)
    (good : state.EndsForGood)
    (possible : step options conversation state event = some (next, effects)) :
    next.EndsForGood := by
  intro failure failed
  cases move_of_step possible with
  | opens dialing phase silent =>
      rcases phase with rfl | ⟨stored, rfl⟩ <;> cases failed
  | loads stored loading clear phase | abandons outcome held loading phase | wakes pausing phase
  | works event connection later done connected permitted possible goes phase =>
      rw [phase] at failed
      cases failed
  | misses raised dialing concludes | leaves outcome held result abandoning concludes
  | ends event connection later done connected permitted possible ended concludes =>
      exact ends_for_good_of_conclusion reconnects concludes failure failed
  | stops asked phase awake =>
      rcases phase with same | ⟨-, finished⟩
      · apply good
        rwa [State.failure?, same] at failed
      · rw [State.failure?, finished] at failed
        cases failed

variable (options) in
theorem retries_only_passing (good : conversation.RefusesForGood) :
    RetriesOnlyPassing options conversation where
  fatal := by
    intro state event failure events last told blames lasting closes ran
    obtain ⟨next, effects, after, possible, goes, rfl⟩ := step_of_run ran
    obtain ⟨doomed, quiet⟩ := doomed_of_blame blames lasting (move_of_step possible)
    obtain ⟨silent, final, ends, outcome⟩ := doomed_of_run doomed lasting closes goes
    exact ⟨List.forall_mem_cons.mpr ⟨quiet, silent⟩, ended_of_doomed ends,
      fun ended => ⟨final, failure_of_doomed ends ended, outcome⟩⟩
  retried := by
    intro events last before turn after ran dials
    obtain ⟨state, first, second, early, late⟩ := run_split ran
    obtain ⟨next, rest, possible, -⟩ := run_cons late rfl
    have accounted : Accounted options before state :=
      holds_of_history ⟨.inr trivial, nofun⟩ (accounted_snoc good) early
    exact cause_of_dial good accounted possible dials
  terminal := by
    intro events last told failure ran reconnects
    have begins : (State.initial : State Memory).EndsForGood := fun failure failed => by
      cases failed
    exact holds_of_run (ends_for_good_of_step reconnects) begins ran failure

/-- Callbacks and stores that fail for good end a session, and only what is worth trying again
makes it dial again: whether it follows the chain or watches the mempool. -/
theorem lasting_failures_are_fatal (options : Options) (following : ChainFollower.Options) :
    RetriesOnlyPassing options (ChainFollower.conversation following) ∧
      RetriesOnlyPassing options MempoolWatcher.conversation :=
  ⟨retries_only_passing options (ChainFollower.refuses_for_good following),
    retries_only_passing options MempoolWatcher.refuses_for_good⟩

end

/-- A follower that is handed its first frame. -/
def firstDelivery : List Event :=
  [.dialed (.ok ()), .loaded (.ok []), .connection .readerStarts,
    .connection (.received (.ok (.text [])))]

/-- What is left to do once the reader of a connection has failed. -/
def winding : List Event :=
  [.connection .closerWakes, .connection (.closed (.ok ())), .connection .writerStarts,
    .connection (.sent (.ok ())), .connection .writerQuits, .connection .supervisorStarts,
    .connection .supervisorStops]

theorem lasting_failures_are_fatal_of_callback :
    ∃ state told last later,
      run ⟨true, 0, true⟩ (ChainFollower.conversation ⟨1, 10000, 0, []⟩) .initial firstDelivery =
        some (state, told) ∧
      run ⟨true, 0, true⟩ (ChainFollower.conversation ⟨1, 10000, 0, []⟩) state
          (.connection (.called (.error (.of (.reported "boom")))) :: winding) =
        some (last, later) ∧
      (∀ turn ∈ later, turn.2.any Effect.dials = false) ∧
      ∃ final, last.failure? = some final ∧
        Outcomes winding (Duty.followerCallback.failed (.of (.reported "boom"))) final := by
  have clear : (ChainFollower.conversation ⟨1, 10000, 0, []⟩).obstacle? [] = none :=
    ChainFollower.no_obstacle_to_origin rfl
  obtain ⟨state, told, last, later, connection, ran, ended, connected, unfailing, finishes⟩ :
      ∃ state told last later connection,
        run ⟨true, 0, true⟩ (ChainFollower.conversation ⟨1, 10000, 0, []⟩) .initial
            firstDelivery = some (state, told) ∧
        last.isEnded = true ∧ state.phase = .connected connection ∧
        connection.failure = none ∧
        run ⟨true, 0, true⟩ (ChainFollower.conversation ⟨1, 10000, 0, []⟩) state
            (.connection (.called (.error (.of (.reported "boom")))) :: winding) =
          some (last, later) :=
    ⟨_, _, _, _, _, run_of_step rfl (run_of_step (step_of_load rfl clear) rfl), rfl, rfl, rfl, rfl⟩
  have blames : Blames (ChainFollower.conversation ⟨1, 10000, 0, []⟩) state
      (.connection (.called (.error (.of (.reported "boom")))))
      (connection.failure.getD (Duty.followerCallback.failed (.of (.reported "boom")))) :=
    .connection _ connection _ connected (.callback _)
  rw [unfailing] at blames
  obtain ⟨quiet, -, final⟩ := (lasting_failures_are_fatal ⟨true, 0, true⟩
    ⟨1, 10000, 0, []⟩).1.fatal _ _ _ winding last later blames rfl (by simp [winding]) finishes
  exact ⟨state, told, last, later, ran, finishes, quiet, final ended⟩

/-- A callback that passes on a line that was dropped elsewhere makes the session dial again. -/
theorem dialed_again_after_callback :
    ∃ state told last later,
      run ⟨true, 0, true⟩ (ChainFollower.conversation ⟨1, 10000, 0, []⟩) .initial firstDelivery =
        some (state, told) ∧
      run ⟨true, 0, true⟩ (ChainFollower.conversation ⟨1, 10000, 0, []⟩) state
          (.connection (.called (.error (.of (.dropped none)))) :: winding) =
        some (last, later) ∧
      last.isEnded = false ∧ ∃ turn ∈ later, turn.2.any Effect.dials = true :=
  have clear : (ChainFollower.conversation ⟨1, 10000, 0, []⟩).obstacle? [] = none :=
    ChainFollower.no_obstacle_to_origin rfl
  ⟨_, _, _, _, run_of_step rfl (run_of_step (step_of_load rfl clear) rfl), rfl, rfl, _,
    List.mem_of_getLast? rfl, rfl⟩

end Session

end NodeBridge
