import Mathlib.Order.Basic
import NodeBridge.CommandLine.Program
import NodeBridge.Proofs.Connection.Conservation
import NodeBridge.Proofs.Session.Connections

/-!
Runs of a command that prints what its session delivers. The session takes its steps as it does
without a printer, except that it is asked to stop only once the printer has seen enough. What is
printed are the deliveries in order. For a follower of the chain these are among the texts that
arrive on lines that are not stopped, at most one for each step.
-/

namespace NodeBridge

/-- The deliveries among what has to be done. -/
def Session.deliveries {Delivery : Type} (effects : List (Session.Effect Delivery)) :
    List Delivery :=
  (effects.filterMap Session.Effect.connection?).filterMap Connection.Effect.delivery?

namespace Following

open Session (Event Effect)

section

variable {Memory Delivery : Type}

/-- What a printer makes of deliveries, one after the other. -/
def printed (hear : Printer → Delivery → Printer × Except Failure Unit) (printer : Printer)
    (deliveries : List Delivery) : Printer :=
  deliveries.foldl (fun printer delivery => (hear printer delivery).1) printer

/-- The text that an event brings, unless the line is stopped. -/
def arriving? (following : Following Memory) : Event → Option Bytes
  | .connection (.received (.ok (.text content))) =>
      if following.session.isStopped then none else some content
  | _ => none

/-- The texts that arrive in the course of events on lines that are not stopped, in order. -/
def arrivals (options : Session.Options) (conversation : Conversation Memory Delivery)
    (hear : Printer → Delivery → Printer × Except Failure Unit)
    (following : Following Memory) : List Event → List Bytes
  | [] => []
  | event :: events =>
      (following.arriving? event).toList ++
        match step options conversation hear following event with
        | some next => arrivals options conversation hear next events
        | none => []

variable {options : Session.Options} {conversation : Conversation Memory Delivery}
  {hear : Printer → Delivery → Printer × Except Failure Unit}
  {following next last : Following Memory} {event : Event} {before after events : List Event}

theorem printed_cons (printer : Printer) (delivery : Delivery) (deliveries : List Delivery) :
    printed hear printer (delivery :: deliveries) =
      printed hear (hear printer delivery).1 deliveries := rfl

theorem printed_append (printer : Printer) (first second : List Delivery) :
    printed hear printer (first ++ second) = printed hear (printed hear printer first) second :=
  List.foldl_append

variable (hear) in
theorem take_effects (effects : List (Effect Delivery)) (following : Following Memory) :
    (effects.foldl (takeEffect hear) following).session = following.session ∧
      (effects.foldl (takeEffect hear) following).printer =
        printed hear following.printer (Session.deliveries effects) := by
  induction effects generalizing following with
  | nil => exact ⟨rfl, rfl⟩
  | cons effect effects induction =>
      obtain ⟨session, printer⟩ := induction (takeEffect hear following effect)
      rw [List.foldl_cons, session, printer]
      cases effect with
      | connection effect => cases effect <;> exact ⟨rfl, rfl⟩
      | dial | load | log message => exact ⟨rfl, rfl⟩

/-- A step is a step of the session that the printer permits, and its deliveries are printed. -/
theorem step_cases (possible : step options conversation hear following event = some next) :
    following.permits event = true ∧ ∃ effects,
      Session.step options conversation following.session event = some (next.session, effects) ∧
        next.printer = printed hear following.printer (Session.deliveries effects) := by
  unfold step at possible
  split at possible
  · next permitted =>
      obtain ⟨⟨session, effects⟩, moved, rfl⟩ := Option.map_eq_some_iff.mp possible
      obtain ⟨same, told⟩ := take_effects hear effects { following with session }
      exact ⟨permitted, effects, by rw [same]; exact moved, told⟩
  · cases possible

theorem run_cons (possible : step options conversation hear following event = some next) :
    run options conversation hear following (event :: events) =
      run options conversation hear next events := by
  simp [run, possible]

theorem step_of_run
    (ran : run options conversation hear following (event :: events) = some last) :
    ∃ next, step options conversation hear following event = some next ∧
      run options conversation hear next events = some last := by
  simpa only [run, Option.bind_eq_bind, Option.bind_eq_some_iff] using ran

theorem run_append (first : run options conversation hear following before = some next) :
    run options conversation hear following (before ++ after) =
      run options conversation hear next after := by
  induction before generalizing following with
  | nil =>
      cases first
      rfl
  | cons event events induction =>
      obtain ⟨middle, possible, ran⟩ := step_of_run first
      rw [List.cons_append, run_cons possible, induction ran]

theorem arrivals_cons (possible : step options conversation hear following event = some next) :
    arrivals options conversation hear following (event :: events) =
      (following.arriving? event).toList ++
        arrivals options conversation hear next events := by
  simp [arrivals, possible]

theorem event_of_arriving {content : Bytes} (arrives : following.arriving? event = some content) :
    event = .connection (.received (.ok (.text content))) ∧
      following.session.isStopped = false := by
  unfold arriving? at arrives
  split at arrives
  · next text =>
      cases stopped : following.session.isStopped with
      | true => simp [stopped] at arrives
      | false =>
          simp only [stopped, Bool.false_eq_true, if_false, Option.some.injEq] at arrives
          exact ⟨by rw [arrives], rfl⟩
  · cases arrives

/-- The session of a command goes through a run of its own. -/
theorem session_of_run (ran : run options conversation hear following events = some last) :
    ∃ told, Session.run options conversation following.session events =
      some (last.session, told) := by
  induction events generalizing following with
  | nil =>
      cases ran
      exact ⟨[], rfl⟩
  | cons event events induction =>
      obtain ⟨next, possible, ran⟩ := step_of_run ran
      obtain ⟨-, effects, moved, -⟩ := step_cases possible
      obtain ⟨told, later⟩ := induction ran
      exact ⟨(event, effects) :: told, Session.run_of_step moved later⟩

/-- What every step keeps holds at the end of a run if it holds at its start. -/
theorem holds_of_run {Holds : Following Memory → Prop}
    (keeps : ∀ {following next event}, Holds following →
      step options conversation hear following event = some next → Holds next)
    (holds : Holds following)
    (ran : run options conversation hear following events = some last) : Holds last := by
  induction events generalizing following with
  | nil =>
      cases ran
      exact holds
  | cons event events induction =>
      obtain ⟨next, possible, ran⟩ := step_of_run ran
      exact induction (keeps holds possible) ran

end

end Following

namespace Program.Run

variable {Memory Delivery : Type}

/-- The state of a command after events in order, if each of them is possible. -/
def after (run : Run Memory Delivery) :
    Following Memory → List Session.Event → Option (Following Memory) :=
  Following.run run.options run.conversation run.hear

/-- The texts that arrive in the course of events on lines that are not stopped. -/
def arrivals (run : Run Memory Delivery) : Following Memory → List Session.Event → List Bytes :=
  Following.arrivals run.options run.conversation run.hear

end Program.Run

/-! What a step of a session hands over. -/

namespace Session

section

variable {Memory Delivery : Type} {options : Options}
  {conversation : Conversation Memory Delivery} {state next : State Memory} {event : Event}
  {effects : List (Effect Delivery)}

/-- A step of a connection hands over what the connection does, and others hand over nothing. -/
theorem deliveries_of_move (move : Move options conversation state next event effects) :
    event.connection? = none ∧ deliveries effects = [] ∨
      ∃ connection moved later done, state.phase = .connected connection ∧
        event = .connection moved ∧
        Connection.step conversation connection moved = some (later, done) ∧
        deliveries effects = done.filterMap Connection.Effect.delivery? := by
  rcases on_line_of_move move with
    ⟨other, nothing | closes⟩ | ⟨connection, moved, later, connected, same, possible⟩
  · exact .inl ⟨other, by rw [deliveries, nothing]; rfl⟩
  · exact .inl ⟨other, by rw [deliveries, closes]; rfl⟩
  · exact .inr ⟨connection, moved, later, _, connected, same, possible, rfl⟩

/-! A session that leaves. -/

/-- A session that was asked to stop and whose line, unless the session is over, is stopped. -/
structure State.Leaving (state : State Memory) : Prop where
  stopping : state.stopping = true
  stopped : state.isStopped = true ∨ state.isEnded = true

theorem State.Leaving.line_stopped {connection : Connection.State Memory} (leaving : state.Leaving)
    (connected : state.phase = .connected connection) : connection.stopped = true := by
  simpa [State.isStopped, State.isEnded, connected] using leaving.stopped

theorem leaving_of_conclusion {result : Option Failure} (waits : options.delay ≠ 0)
    (stopping : state.stopping = true)
    (concludes : Conclusion options state next result effects) : next.Leaving := by
  cases concludes with
  | settles phase | desists message asked phase => exact phase ▸ ⟨stopping, .inr rfl⟩
  | redials failure failed reconnects temporary prompt => exact absurd prompt waits
  | pauses message running =>
      rw [stopping] at running
      cases running

/-- A session that leaves does so for good, and it hands nothing over. -/
theorem leaving_of_step (waits : options.delay ≠ 0) (leaving : state.Leaving)
    (possible : step options conversation state event = some (next, effects)) :
    next.Leaving ∧ deliveries effects = [] := by
  have stopping := leaving.stopping
  have stopped := leaving.stopped
  have move := move_of_step possible
  refine ⟨?_, ?_⟩
  · cases move with
    | opens phase | loads _ phase | abandons _ _ phase | misses _ phase | leaves _ _ _ phase
    | wakes phase => simp [State.isStopped, State.isEnded, phase] at stopped
    | works event connection later done connected permitted moved goes phase =>
        have before := leaving.line_stopped connected
        exact phase ▸ ⟨stopping, .inl (Connection.stopped_of_step before moved)⟩
    | ends event connection later done connected permitted moved ended concludes =>
        exact leaving_of_conclusion waits stopping concludes
    | stops asked phase awake =>
        rcases phase with same | ⟨pausing, finished⟩
        · refine ⟨asked, ?_⟩
          simpa only [State.isStopped, State.isEnded, same] using stopped
        · exact ⟨asked, .inr (by simp [State.isEnded, finished])⟩
  · rcases deliveries_of_move move with
      ⟨-, nothing⟩ | ⟨connection, moved, later, done, connected, rfl, possible, same⟩
    · exact nothing
    · rcases Connection.deliveries_of_step possible with
        nothing | ⟨content, delivery, save, memory, requests, -, running, -⟩
      · rw [same, nothing]
      · cases (leaving.line_stopped connected).symm.trans running

theorem stopping_of_step
    (possible : step options conversation state event = some (next, effects))
    (stopping : next.stopping = true) : state.stopping = true ∨ event = .stopRequested := by
  cases move_of_step possible with
  | opens dialing phase =>
      rcases phase with rfl | ⟨stored, rfl⟩ <;> exact .inl stopping
  | loads _ _ _ phase | abandons _ _ _ phase | works _ _ _ _ _ _ _ _ phase | wakes _ phase =>
      rw [phase] at stopping
      exact .inl stopping
  | misses _ _ concludes | leaves _ _ _ _ concludes | ends _ _ _ _ _ _ _ _ concludes =>
      cases concludes with
      | settles phase | redials _ _ _ _ _ phase | pauses _ _ phase | desists _ _ phase =>
          rw [phase] at stopping
          exact .inl stopping
  | stops => exact .inr rfl

end

end Session

end NodeBridge
