import Mathlib.Data.List.DropRight
import NodeBridge.Proofs.Connection.Deliveries
import NodeBridge.Proofs.Session.Lines

/-!
The connections of a session. The turns since the latest line was opened are the turns of the
connection that the session holds, from its very start: nothing of an earlier connection is
left in a later one. What holds of every run of a connection so holds on each line of a
session.
-/

namespace NodeBridge.Session

def Event.connection? : Event → Option Connection.Event
  | .connection event => some event
  | _ => none

section

variable {Memory Delivery : Type}

def Effect.connection? : Effect Delivery → Option (Connection.Effect Delivery)
  | .connection effect => some effect
  | _ => none

/-- The turns that follow upon the latest opening of a line. -/
def sinceOpening (told : List (Event × List (Effect Delivery))) :
    List (Event × List (Effect Delivery)) :=
  told.rtakeWhile fun turn => !turn.1.opens

/-- The turns that are turns of a connection. -/
def onConnection (told : List (Event × List (Effect Delivery))) :
    List (Connection.Event × List (Connection.Effect Delivery)) :=
  told.filterMap fun turn =>
    turn.1.connection?.map fun event => (event, turn.2.filterMap Effect.connection?)

/-- All that was handed over, in order. -/
def handed (told : List (Event × List (Effect Delivery))) : List Delivery :=
  (onConnection told).flatMap fun turn => turn.2.filterMap Connection.Effect.delivery?

/-- Whether the connection that the session holds was stopped. -/
def State.isStopped (state : State Memory) : Bool :=
  match state.phase with
  | .connected connection => connection.stopped
  | _ => false

variable {options : Options} {conversation : Conversation Memory Delivery}
  {state next last : State Memory} {event : Event} {effects : List (Effect Delivery)}
  {events : List Event} {told before recent : List (Event × List (Effect Delivery))}
  {turn : Event × List (Effect Delivery)} {connection : Connection.State Memory}

/-! Runs put together, step by step. -/

theorem run_of_step (possible : step options conversation state event = some (next, effects))
    (ran : run options conversation next events = some (last, told)) :
    run options conversation state (event :: events) = some (last, (event, effects) :: told) := by
  simp [run, possible, ran]

theorem run_append {first second : List Event} {middle : State Memory}
    (early : run options conversation state first = some (middle, before))
    (late : run options conversation middle second = some (last, recent)) :
    run options conversation state (first ++ second) = some (last, before ++ recent) := by
  induction first generalizing state before with
  | nil =>
      cases early
      exact late
  | cons event first induction =>
      obtain ⟨next, effects, after, possible, ran, rfl⟩ := step_of_run early
      exact run_of_step possible (induction ran)

theorem step_of_load {stored : List Point} (loading : state.phase = .loading)
    (clear : conversation.obstacle? stored = none) :
    step options conversation state (.loaded (.ok stored)) =
      some (connect conversation state stored, []) := by
  simp [step, loading, begin, clear]

theorem step_of_connection {event : Connection.Event} {later : Connection.State Memory}
    {done : List (Connection.Effect Delivery)} (connected : state.phase = .connected connection)
    (permitted : permits state event = true)
    (possible : Connection.step conversation connection event = some (later, done))
    (goes : later.ended = false) :
    step options conversation state (.connection event) =
      some ({ state with phase := .connected later }, done.map .connection) := by
  simp [step, connected, permitted, possible, adopt, goes]

/-! How the turns since the latest opening grow. -/

theorem since_opening_of_opening (opens : turn.1.opens = true) :
    sinceOpening (told ++ [turn]) = [] := by
  simp [sinceOpening, opens]

theorem since_opening_snoc (alone : turn.1.opens = false) :
    sinceOpening (told ++ [turn]) = sinceOpening told ++ [turn] := by
  simp [sinceOpening, alone]

theorem since_opening_append (alone : openings recent = 0) :
    sinceOpening (before ++ recent) = sinceOpening before ++ recent := by
  induction recent using List.reverseRecOn with
  | nil => simp
  | append_singleton recent turn induction =>
      simp only [openings, List.countP_append, Nat.add_eq_zero_iff] at alone
      have quiet : turn.1.opens = false := by simpa using alone.2
      rw [← List.append_assoc, since_opening_snoc quiet, induction alone.1, List.append_assoc]

/-- A turn that is none of a connection, and opens no line, leaves no trace. -/
theorem on_connection_snoc (alone : turn.1.opens = false) (other : turn.1.connection? = none) :
    onConnection (sinceOpening (told ++ [turn])) = onConnection (sinceOpening told) := by
  rw [since_opening_snoc alone]
  simp [onConnection, other]

theorem on_connection_snoc_of_connection (event : Connection.Event) :
    onConnection (sinceOpening (told ++ [(.connection event, effects)])) =
      onConnection (sinceOpening told) ++ [(event, effects.filterMap Effect.connection?)] := by
  rw [since_opening_snoc rfl]
  simp [onConnection, Event.connection?]

theorem handed_append : handed (before ++ recent) = handed before ++ handed recent := by
  simp [handed, onConnection]

theorem connection_effects (done : List (Connection.Effect Delivery)) :
    (done.map Effect.connection).filterMap Effect.connection? = done := by
  rw [List.filterMap_map]
  exact List.filterMap_some

theorem off_line_of_conclusion {result : Option Failure}
    (concludes : Conclusion options state next result effects) :
    effects.filterMap Effect.connection? = [] := by
  cases concludes with
  | settles phase notes | redials failure failed reconnects temporary prompt phase notes
  | pauses message running phase notes | desists message stopping phase notes =>
      rw [notes]
      rfl

/-- What a step does on a line is what the connection does, unless it closes a line on which
nothing was said. -/
theorem on_line_of_move (move : Move options conversation state next event effects) :
    event.connection? = none ∧ (effects.filterMap Effect.connection? = [] ∨
        effects.filterMap Effect.connection? = [.close]) ∨
      ∃ connection moved later, state.phase = .connected connection ∧
        event = .connection moved ∧
        Connection.step conversation connection moved =
          some (later, effects.filterMap Effect.connection?) := by
  cases move with
  | opens dialing phase silent => rcases silent with rfl | rfl <;> exact .inl ⟨rfl, .inl rfl⟩
  | loads | stops | wakes => exact .inl ⟨rfl, .inl rfl⟩
  | abandons => exact .inl ⟨rfl, .inr rfl⟩
  | misses failure dialing concludes | leaves outcome failure result abandoning concludes =>
      exact .inl ⟨rfl, .inl (off_line_of_conclusion concludes)⟩
  | works event connection later done connected permitted possible =>
      refine .inr ⟨connection, event, later, connected, rfl, ?_⟩
      rwa [connection_effects]
  | ends event connection later done connected permitted possible ended concludes =>
      refine .inr ⟨connection, event, later, connected, rfl, ?_⟩
      rwa [List.filterMap_append, connection_effects, off_line_of_conclusion concludes,
        List.append_nil]

/-- What every step keeps of a record of the turns holds at the end of a run. -/
theorem holds_of_history {Holds : List (Event × List (Effect Delivery)) → State Memory → Prop}
    (begins : Holds [] .initial)
    (keeps : ∀ {told state event next effects}, Holds told state →
      step options conversation state event = some (next, effects) →
        Holds (told ++ [(event, effects)]) next)
    (ran : run options conversation .initial events = some (last, told)) : Holds told last := by
  induction told using List.reverseRecOn generalizing events last with
  | nil => exact run_nil ran ▸ begins
  | append_singleton told turn induction =>
      obtain ⟨state, first, second, early, late⟩ := run_split ran
      obtain ⟨next, rest, possible, done⟩ := run_cons late rfl
      rw [run_nil done]
      exact keeps (induction early) possible

/-- Where the connection of a session stands after the turns since its line was opened. -/
def Carried (options : Options) (conversation : Conversation Memory Delivery)
    (told : List (Event × List (Effect Delivery))) (state : State Memory) : Prop :=
  match state.phase with
  | .loading => onConnection (sinceOpening told) = []
  | .connected connection =>
      ∃ stored past, Connection.Reached conversation stored past connection ∧
        Connection.history past = onConnection (sinceOpening told) ∧
        (options.loads = true → conversation.obstacle? stored = none)
  | _ => True

theorem carried_of_conclusion {result : Option Failure}
    (concludes : Conclusion options state next result effects) :
    Carried options conversation told next := by
  cases concludes with
  | settles phase | redials failure failed reconnects temporary prompt phase
  | pauses message running phase | desists message stopping phase =>
      rw [phase]
      trivial

theorem carried_of_connect (stored : List Point)
    (nothing : onConnection (sinceOpening told) = [])
    (clear : options.loads = true → conversation.obstacle? stored = none) :
    Carried options conversation told (connect conversation state stored) :=
  ⟨stored, [], .start, nothing.symm, clear⟩

theorem carried_snoc (carried : Carried options conversation told state)
    (possible : step options conversation state event = some (next, effects)) :
    Carried options conversation (told ++ [(event, effects)]) next := by
  cases move_of_step possible with
  | opens dialing phase silent waits =>
      have nothing : onConnection (sinceOpening (told ++ [(.dialed (.ok ()), effects)])) = [] := by
        rw [since_opening_of_opening rfl]
        rfl
      rcases phase with rfl | ⟨stored, rfl⟩
      · exact nothing
      · refine carried_of_connect stored nothing fun loads => ?_
        cases waits loads
  | loads stored loading clear phase =>
      have nothing : onConnection (sinceOpening told) = [] := by
        simpa only [Carried, loading] using carried
      rw [phase]
      refine carried_of_connect stored ?_ fun _ => clear
      rw [on_connection_snoc rfl rfl, nothing]
  | abandons outcome failure loading phase =>
      rw [phase]
      trivial
  | misses failure dialing concludes | leaves outcome failure result abandoning concludes
  | ends event connection later done connected permitted possible ended concludes =>
      exact carried_of_conclusion concludes
  | works event connection later done connected permitted moved goes phase =>
      have held : ∃ stored past, Connection.Reached conversation stored past connection ∧
          Connection.history past = onConnection (sinceOpening told) ∧
          (options.loads = true → conversation.obstacle? stored = none) := by
        simpa only [Carried, connected] using carried
      obtain ⟨stored, past, reached, same, clear⟩ := held
      rw [phase]
      refine ⟨stored, _, reached.step moved, ?_, clear⟩
      rw [on_connection_snoc_of_connection, ← same, connection_effects]
      simp [Connection.history]
  | stops asked phase awake =>
      unfold Carried at carried ⊢
      rw [on_connection_snoc rfl rfl]
      rcases phase with same | ⟨pausing, finished⟩
      · rw [same]
        exact carried
      · rw [finished]
        trivial
  | wakes pausing phase =>
      rw [phase]
      trivial

/-- The connection that a session holds went from its start through the turns since its line
was opened. If the session had to load its points, what opens the conversation can be written. -/
theorem reached_of_connected
    (ran : run options conversation .initial events = some (state, told))
    (connected : state.phase = .connected connection) :
    ∃ stored past, Connection.Reached conversation stored past connection ∧
      Connection.history past = onConnection (sinceOpening told) ∧
      (options.loads = true → conversation.obstacle? stored = none) := by
  have carried : Carried options conversation told state :=
    holds_of_history trivial carried_snoc ran
  simpa only [Carried, connected] using carried

theorem handed_of_history {past : List (Connection.Turn Memory Delivery)}
    (same : Connection.history past = onConnection told) : Connection.handed past = handed told := by
  rw [handed, ← same, Connection.history, List.flatMap_map]
  rfl

end

end NodeBridge.Session
