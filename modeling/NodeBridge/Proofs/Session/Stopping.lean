import NodeBridge.Proofs.Connection.Closing
import NodeBridge.Proofs.Session.Run
import NodeBridge.Session.MempoolWatcher

/-!
What becomes of a session that was asked to stop. It never waits between dials any more, and
it cannot stand still before it is over, unless a delivery is under way. It dials again in one
case only: an attempt ends over a temporary failure and there is no delay between dials.
-/

namespace NodeBridge.Session

section

variable {Memory Delivery : Type}

/-- Whether an event has to come about sooner or later if it is possible. Nobody has to ask
for a stop, and a pause may be of any length. -/
def Event.isDue (state : State Memory) : Event → Bool
  | .connection event =>
      match state.phase with
      | .connected held => event.isDue held
      | _ => false
  | .stopRequested | .pauseElapsed => false
  | _ => true

/-- Whether a session stands still: nothing that is due can happen. -/
def State.IsQuiescent (options : Options) (conversation : Conversation Memory Delivery)
    (state : State Memory) : Prop :=
  ∀ event : Event, event.isDue state = true → step options conversation state event = none

/-- Whether a delivery is under way. -/
def State.isCalling (state : State Memory) : Bool :=
  match state.phase with
  | .connected connection => connection.reader.isCalling
  | _ => false

/-- A session that was asked to stop and does not pause. -/
structure State.Halting (state : State Memory) : Prop where
  stopping : state.stopping = true
  awake : state.phase ≠ .pausing

/-- The connection that a session holds has not ended. -/
def State.Unfinished (state : State Memory) : Prop :=
  ∀ connection, state.phase = .connected connection → connection.ended = false

/-- The session dials again over a temporary failure, and it does so without any delay. -/
structure RetriesAtOnce (options : Options) (effects : List (Effect Delivery)) : Prop where
  reconnects : options.reconnect = true
  prompt : options.delay = 0
  temporary : ∃ failure : Failure, failure.isTemporary = true ∧
    .log (retryMessage 0 failure) ∈ effects

variable {options : Options} {conversation : Conversation Memory Delivery}
  {state next last : State Memory} {event : Event} {effects : List (Effect Delivery)}
  {events : List Event} {told before after : List (Event × List (Effect Delivery))}

theorem unfinished_of_conclusion {result : Option Failure}
    (concludes : Conclusion options state next result effects) : next.Unfinished := by
  intro connection connected
  cases concludes with
  | settles phase | redials failure failed reconnects temporary prompt phase
  | pauses message running phase | desists message stopping phase =>
      rw [phase] at connected
      cases connected

theorem unfinished_of_connect (stored : List Point) :
    (connect conversation state stored).Unfinished := by
  intro connection connected
  cases connected
  rfl

theorem unfinished_of_step (unfinished : state.Unfinished)
    (possible : step options conversation state event = some (next, effects)) :
    next.Unfinished := by
  cases move_of_step possible with
  | opens dialing phase silent =>
      rcases phase with rfl | ⟨stored, rfl⟩
      · intro connection connected
        cases connected
      · exact unfinished_of_connect stored
  | loads stored loading clear phase => exact phase ▸ unfinished_of_connect stored
  | abandons outcome failure loading phase | wakes pausing phase =>
      intro connection connected
      rw [phase] at connected
      cases connected
  | misses failure dialing concludes | leaves outcome failure result abandoning concludes
  | ends event connection later done connected permitted possible ended concludes =>
      exact unfinished_of_conclusion concludes
  | works event connection later done connected permitted possible goes phase =>
      intro held holds
      rw [phase] at holds
      cases holds
      exact goes
  | stops asked phase awake =>
      intro connection connected
      rcases phase with same | ⟨-, finished⟩
      · exact unfinished connection (same.symm.trans connected)
      · rw [finished] at connected
        cases connected

theorem halting_of_conclusion {result : Option Failure} (halting : state.stopping = true)
    (concludes : Conclusion options state next result effects) : next.Halting := by
  cases concludes with
  | settles phase => exact phase ▸ ⟨halting, by simp⟩
  | redials failure failed reconnects temporary prompt phase => exact phase ▸ ⟨halting, by simp⟩
  | pauses message running phase =>
      rw [halting] at running
      cases running
  | desists message stopping phase => exact phase ▸ ⟨halting, by simp⟩

theorem halting_of_step (halting : state.Halting)
    (possible : step options conversation state event = some (next, effects)) :
    next.Halting := by
  have stopping := halting.stopping
  cases move_of_step possible with
  | opens dialing phase silent =>
      rcases phase with rfl | ⟨stored, rfl⟩ <;> exact ⟨stopping, by simp [connect]⟩
  | loads stored loading clear phase => exact phase ▸ ⟨stopping, by simp [connect]⟩
  | abandons outcome failure loading phase => exact phase ▸ ⟨stopping, by simp⟩
  | misses failure dialing concludes | leaves outcome failure result abandoning concludes
  | ends event connection later done connected permitted possible ended concludes =>
      exact halting_of_conclusion stopping concludes
  | works event connection later done connected permitted possible goes phase =>
      exact phase ▸ ⟨stopping, by simp⟩
  | stops asked phase awake => exact ⟨asked, awake⟩
  | wakes pausing phase => exact absurd pausing halting.awake

theorem halting_of_stop
    (possible : step options conversation state .stopRequested = some (next, effects)) :
    next.Halting := by
  cases move_of_step possible with
  | stops asked phase awake => exact ⟨asked, awake⟩

theorem retries_of_conclusion {result : Option Failure} (stopping : state.stopping = true)
    (concludes : Conclusion options state next result effects) (dials : .dial ∈ effects) :
    RetriesAtOnce options effects := by
  cases concludes with
  | redials failure failed reconnects temporary prompt phase notes =>
      exact ⟨reconnects, prompt, failure, temporary, by simp [notes, prompt]⟩
  | pauses message running phase notes =>
      rw [stopping] at running
      cases running
  | settles phase notes | desists message stopping phase notes => simp [notes] at dials

/-- A session that was asked to stop dials only where it does not look at the stop: between
two attempts with no delay. -/
theorem retries_of_move (halting : state.Halting)
    (move : Move options conversation state next event effects) (dials : .dial ∈ effects) :
    RetriesAtOnce options effects := by
  have stopping := halting.stopping
  cases move with
  | opens dialing phase silent => rcases silent with rfl | rfl <;> simp at dials
  | loads | abandons | stops | works => simp at dials
  | misses failure dialing concludes => exact retries_of_conclusion stopping concludes dials
  | leaves outcome failure result abandoning concludes =>
      exact retries_of_conclusion stopping concludes dials
  | ends event connection later done connected permitted possible ended concludes =>
      obtain ⟨reconnects, prompt, failure, temporary, logged⟩ :=
        retries_of_conclusion stopping concludes (by simpa using dials)
      exact ⟨reconnects, prompt, failure, temporary, List.mem_append_right _ logged⟩
  | wakes pausing phase => exact absurd pausing halting.awake

theorem retries_of_run (halting : state.Halting)
    (ran : run options conversation state events = some (last, told)) :
    ∀ turn ∈ told, .dial ∈ turn.2 → RetriesAtOnce options turn.2 := by
  induction told generalizing state events with
  | nil => simp
  | cons first told induction =>
      obtain ⟨next, rest, possible, ran⟩ := run_cons ran rfl
      intro turn member dials
      rcases List.mem_cons.mp member with rfl | later
      · exact retries_of_move halting (move_of_step possible) dials
      · exact induction (halting_of_step halting possible) ran turn later dials

theorem stopped_of_quiescent {connection : Connection.State Memory}
    (connected : state.phase = .connected connection) (stopping : state.stopping = true)
    (quiescent : state.IsQuiescent options conversation) : connection.stopped = true := by
  have still := quiescent (.connection .stopFollowed) (by simp [Event.isDue, connected,
    Connection.Event.isDue])
  simpa [step, connected, permits, stopping, Connection.step] using still

/-- Nothing that is due can happen to a connection that was stopped, if nothing can happen to
the session that holds it. -/
theorem still_of_stopped {connection : Connection.State Memory}
    (connected : state.phase = .connected connection) (stopped : connection.stopped = true)
    (quiescent : state.IsQuiescent options conversation) (event : Connection.Event)
    (due : event.isDue connection = true) :
    Connection.step conversation connection event = none := by
  cases permitted : permits state event with
  | false =>
      have follows : event = .stopFollowed := by
        cases event <;> first | rfl | cases permitted
      simp [follows, Connection.step, stopped]
  | true =>
      have still := quiescent (.connection event) (by simpa [Event.isDue, connected] using due)
      simpa [step, connected, permitted] using still

/-- A session that was asked to stop and stands still is over. -/
theorem ended_of_quiescent (halting : state.Halting) (unfinished : state.Unfinished)
    (quiescent : state.IsQuiescent options conversation) (calm : state.isCalling = false) :
    state.isEnded = true := by
  have stopping := halting.stopping
  cases phase : state.phase with
  | ended result => simp [State.isEnded, phase]
  | pausing => exact absurd phase halting.awake
  | dialing =>
      have still := quiescent (.dialed (.ok ())) rfl
      cases loads : options.loads <;> simp [step, phase, loads] at still
  | loading =>
      have still := quiescent (.loaded (.ok [])) rfl
      simp [step, phase] at still
  | abandoning failure =>
      have still := quiescent (.abandoned (.ok ())) rfl
      simp [step, phase] at still
  | connected connection =>
      have idle : connection.reader.isCalling = false := by
        simpa [State.isCalling, phase] using calm
      have stopped := stopped_of_quiescent phase stopping quiescent
      have ended := Connection.ended_of_still stopped (still_of_stopped phase stopped quiescent)
        idle
      rw [unfinished connection phase] at ended
      cases ended

/-- Nothing happens to a session that is over. -/
theorem step_of_ended (ended : state.isEnded = true) (event : Event) :
    step options conversation state event = none := by
  cases phase : state.phase <;> simp [State.isEnded, phase] at ended
  cases event <;> simp [step, phase]

variable (options conversation) in
theorem quiescent_of_ended (ended : state.isEnded = true) :
    state.IsQuiescent options conversation :=
  fun event _ => step_of_ended ended event

/-- A session that was asked to stop dials again only with no delay between dials, and after a
temporary failure; and once it stands still with no delivery under way, it is over. -/
theorem redials_after_stop (ran : run options conversation .initial events =
      some (last, before ++ (.stopRequested, effects) :: after)) :
    (∀ turn ∈ after, .dial ∈ turn.2 → RetriesAtOnce options turn.2) ∧
    (last.IsQuiescent options conversation → last.isCalling = false → last.isEnded = true) := by
  have unfinished : last.Unfinished := by
    refine holds_of_run unfinished_of_step ?_ ran
    intro connection connected
    cases connected
  obtain ⟨running, first, second, -, ran⟩ := run_split ran
  obtain ⟨asked, rest, possible, ran⟩ := run_cons ran rfl
  have halting := halting_of_stop possible
  exact ⟨retries_of_run halting ran,
    ended_of_quiescent (holds_of_run halting_of_step halting ran) unfinished⟩

/-- A session that is asked to stop just before its line drops: the reader learns of the drop
before the line is closed. -/
def droppedWhileStopping : List Event :=
  [.dialed (.ok ()), .connection .supervisorStarts, .connection .writerStarts,
    .connection .readerStarts, .stopRequested,
    .connection (.received (.error (.of (.dropped none)))), .connection .closerWakes,
    .connection (.closed (.ok ())), .connection .writerQuits, .connection .supervisorStops]

theorem redials_after_stop_of_drop :
    ∃ last before effects after,
      run ⟨true, 10000, false⟩ MempoolWatcher.conversation .initial droppedWhileStopping =
        some (last, before ++ (.stopRequested, effects) :: after) ∧
      (∀ turn ∈ after, .dial ∉ turn.2) ∧
      last.IsQuiescent ⟨true, 10000, false⟩ MempoolWatcher.conversation ∧
      last.isEnded = true := by
  obtain ⟨last, before, effects, after, ran, ended, calm⟩ :
      ∃ last before effects after,
        run ⟨true, 10000, false⟩ MempoolWatcher.conversation .initial droppedWhileStopping =
          some (last, before ++ (.stopRequested, effects) :: after) ∧
        last.isEnded = true ∧ last.isCalling = false :=
    ⟨_, [_, _, _, _], _, _, rfl, rfl, rfl⟩
  obtain ⟨dials, stands⟩ := redials_after_stop ran
  have quiescent := quiescent_of_ended ⟨true, 10000, false⟩ MempoolWatcher.conversation ended
  refine ⟨last, before, effects, after, ran, ?_, quiescent, stands quiescent calm⟩
  intro turn member dialed
  exact absurd (dials turn member dialed).prompt (by decide)

theorem redialed_without_delay :
    ∃ last before effects after,
      run ⟨true, 0, false⟩ MempoolWatcher.conversation .initial droppedWhileStopping =
        some (last, before ++ (.stopRequested, effects) :: after) ∧
      ∃ turn ∈ after, .dial ∈ turn.2 :=
  ⟨_, [_, _, _, _], _, [_, _, _, _, _], rfl, _, List.mem_of_getLast? rfl,
    List.mem_of_getLast? rfl⟩

end

end NodeBridge.Session
