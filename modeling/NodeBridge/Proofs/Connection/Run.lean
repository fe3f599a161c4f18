import Mathlib.Data.List.Induction
import NodeBridge.Session.Connection

/-!
Runs of a connection. A run is the list of its turns, and every order in which the duties
may take their steps is a run. The reader is the only duty that hands deliveries over and
saves points, and only the events of the reader move it; what each of these events does is
said here once, and the properties of whole runs are derived from it.
-/

namespace NodeBridge.Connection

/-- One step of a run: the state in which it was taken, what happened, and what was done
about it. -/
structure Turn (Memory Delivery : Type) where
  state : State Memory
  event : Event
  effects : List (Effect Delivery)

section

variable {Memory Delivery : Type}

/-- The runs of a connection from its start, each with the state that it leads to. -/
inductive Reached (conversation : Conversation Memory Delivery) (stored : List Point) :
    List (Turn Memory Delivery) → State Memory → Prop where
  | start : Reached conversation stored [] (.start conversation stored)
  | step {past : List (Turn Memory Delivery)} {state next : State Memory} {event : Event}
      {effects : List (Effect Delivery)} (reached : Reached conversation stored past state)
      (possible : Connection.step conversation state event = some (next, effects)) :
      Reached conversation stored (past ++ [⟨state, event, effects⟩]) next

variable {conversation : Conversation Memory Delivery} {stored : List Point}
  {past : List (Turn Memory Delivery)} {state next last : State Memory} {event : Event}
  {effects : List (Effect Delivery)}

theorem run_append (first second : List Event) :
    run conversation state (first ++ second) =
      (run conversation state first).bind fun middle =>
        (run conversation middle.1 second).map fun final =>
          (final.1, middle.2 ++ final.2) := by
  induction first generalizing state with
  | nil => simp [run]
  | cons event events induction =>
      simp only [List.cons_append, run]
      cases step conversation state event with
      | none => rfl
      | some taken =>
          simp only [Option.bind_eq_bind, Option.bind_some, induction]
          cases run conversation taken.1 events with
          | none => rfl
          | some middle =>
              simp only [Option.bind_some]
              cases run conversation middle.1 second with
              | none => rfl
              | some final => rfl

/-- What a run tells of its turns: the events and what was done about them. -/
def history (past : List (Turn Memory Delivery)) :
    List (Event × List (Effect Delivery)) :=
  past.map fun turn => (turn.event, turn.effects)

theorem run_of_reached (reached : Reached conversation stored past state) :
    run conversation (.start conversation stored) (past.map Turn.event) =
      some (state, history past) := by
  induction reached with
  | start => rfl
  | step reached possible induction =>
      rw [List.map_append, run_append, induction]
      simp [run, possible, history]

/-- The turns of a run say where it leads. -/
theorem reached_unique {other : State Memory} (reached : Reached conversation stored past state)
    (again : Reached conversation stored past other) : state = other := by
  have same := (run_of_reached reached).symm.trans (run_of_reached again)
  exact congrArg Prod.fst (Option.some.inj same)

theorem reached_of_run_from (reached : Reached conversation stored past state)
    (events : List Event) (later : List (Event × List (Effect Delivery)))
    (ran : run conversation state events = some (last, later)) :
    ∃ more, Reached conversation stored (past ++ more) last ∧ history more = later ∧
      more.map Turn.event = events := by
  induction events generalizing past state later with
  | nil =>
      simp only [run, Option.some.injEq, Prod.mk.injEq] at ran
      obtain ⟨rfl, rfl⟩ := ran
      exact ⟨[], by simpa using reached, rfl, rfl⟩
  | cons event events induction =>
      simp only [run, Option.bind_eq_bind, Option.bind_eq_some_iff, Option.some.injEq,
        Prod.mk.injEq, Prod.exists] at ran
      obtain ⟨next, effects, possible, final, rest, ran, rfl, rfl⟩ := ran
      obtain ⟨more, followed, rfl, rfl⟩ := induction (reached.step possible) rest ran
      refine ⟨⟨state, event, effects⟩ :: more, ?_, rfl, rfl⟩
      simpa using followed

/-- The turns of the runs are those that `run` goes through. -/
theorem run_iff_reached (events : List Event) (told : List (Event × List (Effect Delivery))) :
    run conversation (.start conversation stored) events = some (last, told) ↔
      ∃ past, Reached conversation stored past last ∧ history past = told ∧
        past.map Turn.event = events := by
  constructor
  · intro ran
    simpa using reached_of_run_from .start events told ran
  · rintro ⟨past, reached, rfl, rfl⟩
    exact run_of_reached reached

theorem reached_snoc {turn : Turn Memory Delivery}
    (reached : Reached conversation stored (past ++ [turn]) last) :
    Reached conversation stored past turn.state ∧
      step conversation turn.state turn.event = some (last, turn.effects) := by
  generalize whole : past ++ [turn] = turns at reached
  cases reached with
  | start => simp at whole
  | step reached possible =>
      obtain ⟨rfl, rfl⟩ := List.append_singleton_inj.mp whole
      exact ⟨reached, possible⟩

theorem reached_of_append {before after : List (Turn Memory Delivery)}
    (reached : Reached conversation stored (before ++ after) last) :
    ∃ middle, Reached conversation stored before middle := by
  induction after using List.reverseRecOn generalizing last with
  | nil => exact ⟨last, by simpa using reached⟩
  | append_singleton after turn induction =>
      rw [← List.append_assoc] at reached
      exact induction (reached_snoc reached).1

/-- Each turn of a run is a step that was possible after the turns before it. -/
theorem reached_at {before after : List (Turn Memory Delivery)}
    {turn : Turn Memory Delivery}
    (reached : Reached conversation stored (before ++ turn :: after) last) :
    ∃ next, Reached conversation stored before turn.state ∧
      step conversation turn.state turn.event = some (next, turn.effects) := by
  rw [List.append_cons] at reached
  obtain ⟨next, whole⟩ := reached_of_append reached
  exact ⟨next, reached_snoc whole⟩

/-- What holds in a state and is kept by every later step holds of all turns that follow. -/
theorem holds_later {Holds : List (Turn Memory Delivery) → State Memory → Prop}
    {after : List (Turn Memory Delivery)} (reached : Reached conversation stored past state)
    (begins : Holds [] state)
    (keeps : ∀ {after turn next}, Reached conversation stored (past ++ after) turn.state →
      Holds after turn.state → step conversation turn.state turn.event =
        some (next, turn.effects) → Holds (after ++ [turn]) next)
    (later : Reached conversation stored (past ++ after) last) : Holds after last := by
  induction after using List.reverseRecOn generalizing last with
  | nil =>
      rw [List.append_nil] at later
      exact reached_unique reached later ▸ begins
  | append_singleton after turn induction =>
      rw [← List.append_assoc] at later
      obtain ⟨earlier, possible⟩ := reached_snoc later
      exact keeps earlier (induction earlier) possible

end

end NodeBridge.Connection
