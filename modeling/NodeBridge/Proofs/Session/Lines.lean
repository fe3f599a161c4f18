import NodeBridge.Proofs.Connection.Closing
import NodeBridge.Proofs.Session.Run
import NodeBridge.Session.MempoolWatcher

/-!
The lines of a session. A line is open from the dial that succeeds until it is closed. What
was opened is what was closed and what is still open, and nothing is open when the session
dials or is over; so every line is closed once, and no two lines are open together.
-/

namespace NodeBridge.Session

/-- Whether a dial came back with a line. -/
def Event.opens : Event → Bool
  | .dialed (.ok _) => true
  | _ => false

section

variable {Memory Delivery : Type}

def Effect.closes : Effect Delivery → Bool
  | .connection effect => effect.isClose
  | _ => false

def Effect.dials : Effect Delivery → Bool
  | .dial => true
  | _ => false

/-- How many lines were opened. -/
def openings (told : List (Event × List (Effect Delivery))) : Nat :=
  told.countP fun turn => turn.1.opens

/-- How often a line was closed. -/
def closings (told : List (Event × List (Effect Delivery))) : Nat :=
  (told.flatMap Prod.snd).countP Effect.closes

/-- Whether some turns of a run follow upon the opening of a line and open no other one. -/
def IsLife (told life rest : List (Event × List (Effect Delivery))) : Prop :=
  ∃ before opening, told = before ++ opening :: (life ++ rest) ∧
    opening.1.opens = true ∧ openings life = 0

/-- How many lines are open. -/
def State.openLines (state : State Memory) : Nat :=
  match state.phase with
  | .loading => 1
  | .connected connection => (!connection.isClosing).toNat
  | _ => 0

variable {options : Options} {conversation : Conversation Memory Delivery}
  {state next last : State Memory} {event : Event} {effects : List (Effect Delivery)}
  {events : List Event} {told life : List (Event × List (Effect Delivery))}

theorem open_lines_le_one : state.openLines ≤ 1 := by
  unfold State.openLines
  split
  · exact Nat.le_refl 1
  · exact Bool.toNat_le _
  · exact Nat.zero_le 1

@[simp] theorem open_lines_of_initial : (State.initial : State Memory).openLines = 0 := rfl

theorem open_lines_of_connect (stored : List Point) :
    (connect conversation state stored).openLines = 1 := rfl

theorem open_lines_of_ended (ended : state.isEnded = true) : state.openLines = 0 := by
  cases phase : state.phase <;> simp_all [State.isEnded, State.openLines]

theorem open_lines_of_conclusion {result : Option Failure}
    (concludes : Conclusion options state next result effects) : next.openLines = 0 := by
  cases concludes with
  | settles phase | redials failure failed reconnects temporary prompt phase
  | pauses message running phase | desists message stopping phase =>
      rw [phase]
      rfl

theorem no_close_of_conclusion {result : Option Failure}
    (concludes : Conclusion options state next result effects) :
    effects.countP Effect.closes = 0 := by
  cases concludes with
  | settles phase notes | redials failure failed reconnects temporary prompt phase notes
  | pauses message running phase notes | desists message stopping phase notes =>
      rw [notes]
      rfl

theorem closes_of_connection (done : List (Connection.Effect Delivery)) :
    (done.map Effect.connection).countP Effect.closes =
      done.countP Connection.Effect.isClose := by
  rw [List.countP_map]
  rfl

/-- A step closes what it does not leave open. -/
theorem closes_of_move (move : Move options conversation state next event effects) :
    effects.countP Effect.closes + next.openLines = state.openLines + event.opens.toNat := by
  cases move with
  | opens dialing phase silent =>
      have before : state.openLines = 0 := by simp [State.openLines, dialing]
      have after : next.openLines = 1 := by
        rcases phase with rfl | ⟨stored, rfl⟩ <;> rfl
      rw [before, after]
      rcases silent with rfl | rfl <;> rfl
  | loads stored loading clear phase =>
      rw [phase, open_lines_of_connect]
      simp [State.openLines, loading, Event.opens]
  | abandons outcome failure loading phase =>
      rw [phase]
      simp [State.openLines, loading, Event.opens, Effect.closes, Connection.Effect.isClose]
  | misses failure dialing concludes =>
      rw [open_lines_of_conclusion concludes, no_close_of_conclusion concludes]
      simp [State.openLines, dialing, Event.opens]
  | leaves outcome failure result abandoning concludes =>
      rw [open_lines_of_conclusion concludes, no_close_of_conclusion concludes]
      simp [State.openLines, abandoning, Event.opens]
  | works event connection later done connected permitted possible goes phase =>
      rw [closes_of_connection, phase]
      simpa [State.openLines, connected, Event.opens] using Connection.closes_of_step possible
  | ends event connection later done connected permitted possible ended concludes =>
      have closing := Connection.closing_of_ended possible ended
      have quiet : done.countP Connection.Effect.isClose = 0 := by
        have closes := Connection.closes_of_step possible
        simp only [closing, Bool.not_true, Bool.toNat_false, Nat.add_eq_zero_iff] at closes
        exact closes.1
      rw [List.countP_append, closes_of_connection, quiet, no_close_of_conclusion concludes,
        open_lines_of_conclusion concludes]
      simp [State.openLines, connected, closing, Event.opens]
  | stops asked phase awake =>
      rcases phase with same | ⟨pausing, finished⟩
      · simp [State.openLines, same, Event.opens]
      · simp [State.openLines, pausing, finished, Event.opens]
  | wakes pausing phase =>
      rw [phase]
      simp [State.openLines, pausing, Event.opens, Effect.closes]

/-- When the session dials, nothing is open. -/
theorem open_lines_of_dial (move : Move options conversation state next event effects)
    (dials : effects.any Effect.dials = true) : state.openLines = 0 := by
  cases move with
  | opens dialing phase silent => simp [State.openLines, dialing]
  | loads stored loading clear phase => cases dials
  | abandons outcome failure loading phase => cases dials
  | misses failure dialing concludes => simp [State.openLines, dialing]
  | leaves outcome failure result abandoning concludes => simp [State.openLines, abandoning]
  | works event connection later done connected permitted possible goes phase =>
      simp [Effect.dials] at dials
  | ends event connection later done connected permitted possible ended concludes =>
      simp [State.openLines, connected, Connection.closing_of_ended possible ended]
  | stops asked phase awake => cases dials
  | wakes pausing phase => simp [State.openLines, pausing]

theorem dialing_of_opening (move : Move options conversation state next event effects)
    (opens : event.opens = true) : state.phase = .dialing := by
  cases move with
  | opens dialing phase silent => exact dialing
  | loads | abandons | misses | leaves | works | ends | stops | wakes => cases opens

theorem open_lines_of_opening (move : Move options conversation state next event effects)
    (opens : event.opens = true) : state.openLines = 0 := by
  simp [State.openLines, dialing_of_opening move opens]

theorem open_lines_after_opening (move : Move options conversation state next event effects)
    (opens : event.opens = true) : next.openLines = 1 := by
  cases move with
  | opens dialing phase silent => rcases phase with rfl | ⟨stored, rfl⟩ <;> rfl
  | loads | abandons | misses | leaves | works | ends | stops | wakes => cases opens

/-- What was open and what was opened is what was closed and what is open. -/
theorem closings_of_run (ran : run options conversation state events = some (last, told)) :
    closings told + last.openLines = state.openLines + openings told := by
  induction told generalizing state events with
  | nil =>
      rw [run_nil ran]
      simp [closings, openings]
  | cons turn told induction =>
      obtain ⟨next, rest, possible, ran⟩ := run_cons ran rfl
      have now := closes_of_move (move_of_step possible)
      have later := induction ran
      simp only [closings, openings, List.flatMap_cons, List.countP_append, List.countP_cons] at later ⊢
      cases opens : turn.1.opens <;> simp [opens] at now ⊢ <;> omega

theorem closings_of_life (opened : state.openLines = 1) (alone : openings life = 0)
    (ran : run options conversation state events = some (last, life)) :
    closings life + last.openLines = 1 := by
  rw [closings_of_run ran, opened, alone]

/-- No two lines are open together, and every line is closed once: before the session dials
again, before another line is opened, and before the session is over. -/
theorem lines_closed_once
    (ran : run options conversation .initial events = some (state, told)) :
    (∀ past, past <+: told →
      closings past ≤ openings past ∧ openings past ≤ closings past + 1) ∧
    (state.isEnded = true → closings told = openings told) ∧
    ∀ life rest, IsLife told life rest →
      closings life ≤ 1 ∧
      (∀ earlier turn later, life = earlier ++ turn :: later →
        turn.2.any Effect.dials = true → closings earlier = 1) ∧
      (∀ turn after, rest = turn :: after → turn.1.opens = true → closings life = 1) ∧
      (rest = [] → state.isEnded = true → closings life = 1) := by
  refine ⟨?_, ?_, ?_⟩
  · rintro past ⟨after, rfl⟩
    obtain ⟨middle, first, second, early, -⟩ := run_split ran
    have kept := closings_of_run early
    have single : middle.openLines ≤ 1 := open_lines_le_one
    rw [open_lines_of_initial] at kept
    omega
  · intro ended
    have kept := closings_of_run ran
    rw [open_lines_of_ended ended] at kept
    simpa using kept
  · rintro life rest ⟨before, opening, rfl, opens, alone⟩
    obtain ⟨dialing, first, second, -, ran⟩ := run_split ran
    obtain ⟨opened, second, possible, ran⟩ := run_cons ran rfl
    have begun := open_lines_after_opening (move_of_step possible) opens
    obtain ⟨middle, third, fourth, lived, ran⟩ := run_split ran
    have whole := closings_of_life begun alone lived
    refine ⟨by omega, ?_, ?_, ?_⟩
    · rintro earlier turn later rfl dials
      obtain ⟨waiting, fifth, sixth, early, late⟩ := run_split lived
      obtain ⟨next, sixth, possible, -⟩ := run_cons late rfl
      have quiet : openings earlier = 0 := by
        simp only [openings, List.countP_append, Nat.add_eq_zero_iff] at alone
        exact alone.1
      have closed := closings_of_life begun quiet early
      rwa [open_lines_of_dial (move_of_step possible) dials] at closed
    · rintro turn after rfl opens
      obtain ⟨next, fourth, possible, -⟩ := run_cons ran rfl
      rwa [open_lines_of_opening (move_of_step possible) opens] at whole
    · rintro rfl ended
      rw [run_nil ran] at ended
      rwa [open_lines_of_ended ended] at whole

/-- A session that dials again: its first line is closed by the peer without a word, its
second one because the session is asked to stop. -/
def twoLines : List Event :=
  [.dialed (.ok ()), .connection .readerStarts,
    .connection (.received (.error (.of (.dropped none)))), .connection .closerWakes,
    .connection (.closed (.ok ())), .connection .supervisorStarts,
    .connection .supervisorStops, .connection .writerStarts, .connection .writerQuits,
    .pauseElapsed, .dialed (.ok ()), .stopRequested, .connection .stopFollowed,
    .connection .closerWakes, .connection .writerStarts, .connection .writerQuits,
    .connection .readerStarts, .connection (.received (.ok .close)),
    .connection .supervisorStarts, .connection .supervisorStops,
    .connection (.closed (.error (.of (.network "reset"))))]

theorem lines_closed_once_of_two_lines :
    ∃ state told,
      run ⟨true, 10000, false⟩ MempoolWatcher.conversation .initial twoLines =
        some (state, told) ∧
      openings told = 2 ∧ closings told = openings told ∧
      ∃ first second, IsLife told first (told.drop 10) ∧ closings first = 1 ∧
        IsLife told second [] ∧ closings second = 1 := by
  obtain ⟨state, told, ran, ended, two, again, first, second⟩ :
      ∃ state told,
        run ⟨true, 10000, false⟩ MempoolWatcher.conversation .initial twoLines =
          some (state, told) ∧
        state.isEnded = true ∧ openings told = 2 ∧
        (∃ turn after, told.drop 10 = turn :: after ∧ turn.1.opens = true) ∧
        IsLife told (told.tail.take 9) (told.drop 10) ∧ IsLife told (told.drop 11) [] :=
    ⟨_, _, rfl, rfl, rfl, ⟨_, _, rfl, rfl⟩, ⟨[], _, rfl, rfl, rfl⟩,
      ⟨_, _, (List.take_append_drop 10 _).symm, rfl, rfl⟩⟩
  obtain ⟨-, all, lives⟩ := lines_closed_once ran
  obtain ⟨turn, after, begins, opens⟩ := again
  exact ⟨state, told, ran, two, all ended, _, _, first,
    (lives _ _ first).2.2.1 turn after begins opens, second, (lives _ _ second).2.2.2 rfl ended⟩

end

end NodeBridge.Session
