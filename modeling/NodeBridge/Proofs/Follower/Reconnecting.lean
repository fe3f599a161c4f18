import NodeBridge.Proofs.Connection.Conservation
import NodeBridge.Proofs.Follower.Memory
import NodeBridge.Proofs.Session.Connections

/-!
A chain follower over many lines. What it withholds is decided anew on every line: once a late
enough block was handed over, nothing is withheld for as long as that line lasts, and on the
next line early blocks are withheld again until a late one comes there too.
-/

namespace NodeBridge.ChainFollower

open Connection

variable {options : Options} {minSlot : Int} {earlier frames : List Bytes} {frame : Bytes}

theorem reaches_of_withheld (withheld : isWithheld minSlot earlier frame = true) :
    reaches minSlot frame = false := by
  rw [isWithheld, Bool.and_eq_true, Bool.and_eq_true] at withheld
  apply reaches_of_early
  rw [is_early_frame_point]
  exact withheld.1.2

/-- Withholding frames hides no late one. -/
theorem any_reaches_unwithheld (frames : List Bytes) :
    (unwithheld minSlot frames).any (reaches minSlot) = frames.any (reaches minSlot) := by
  induction frames using List.reverseRecOn with
  | nil => rfl
  | append_singleton frames frame induction =>
      rw [unwithheld_snoc, List.any_append, List.any_append, induction]
      cases withheld : isWithheld minSlot frames frame with
      | true => simp [reaches_of_withheld withheld]
      | false => rfl

theorem is_withheld_unwithheld (frames : List Bytes) (frame : Bytes) :
    isWithheld minSlot (unwithheld minSlot frames) frame = isWithheld minSlot frames frame := by
  rw [isWithheld, any_reaches_unwithheld, ← isWithheld]

theorem not_withheld_of_late (late : earlier.any (reaches minSlot) = true) :
    isWithheld minSlot earlier frame = false := by
  simp [isWithheld, late]

section

variable {stored : List Point} {past : List (Turn Memory Bytes)} {state next : State Memory}
  {effects : List (Effect Bytes)}

/-- What a follower does about a text frame: it hands it over or withholds it. -/
theorem effects_of_text (reached : Reached (conversation options) stored past state)
    (running : state.stopped = false)
    (possible : step (conversation options) state (.received (.ok (.text frame))) =
      some (next, effects)) :
    effects = if isWithheld options.minSlot (handed past) frame then [] else [.call frame] := by
  obtain ⟨receiving, receipt⟩ := step_received possible
  have following := following_of_reached reached
  have decides : isWithheld options.minSlot (handed past) frame =
      (state.memory.filtering && isEarly options.minSlot (framePoint? frame)) := by
    rw [following.delivered, is_withheld_unwithheld, is_withheld_of_following following receiving]
  have reacts := react_cases options ((conversation options).count state.memory) frame
  cases receipt with
  | ends memory ends which done saves => cases ends.symm.trans running
  | breaks goes other finished nothing => cases other
  | passes goes other reader kept calls saves => cases other
  | refuses content failure goes text refuses finished nothing =>
      cases text
      rcases reacts with ⟨-, passes⟩ | ⟨-, noted, -, -, delivers⟩
      · cases passes.symm.trans refuses
      · cases delivers.symm.trans refuses
  | proceeds content memory requests goes text proceeds reader kept nothing =>
      cases text
      rcases reacts with ⟨holds, passes⟩ | ⟨-, noted, -, -, delivers⟩
      · have withheld : isWithheld options.minSlot (handed past) frame = true :=
          decides.trans holds
        rw [nothing, withheld, if_pos rfl]
      · cases delivers.symm.trans proceeds
  | delivers content delivery save memory requests goes text delivers reader call =>
      cases text
      rcases reacts with ⟨-, passes⟩ | ⟨holds, noted, -, -, again⟩
      · cases passes.symm.trans delivers
      · have given : isWithheld options.minSlot (handed past) frame = false :=
          decides.trans holds
        have same : deliver options noted frame =
            Reaction.deliver delivery save memory requests := again.symm.trans delivers
        rw [deliver, Reaction.deliver.injEq] at same
        rw [call, given, if_neg Bool.false_ne_true, same.1]

end

open Session in
/-- On a line that is not being closed, a text frame is handed over or withheld, and it is
withheld exactly if it is early and no late frame was handed over since the line was opened,
whatever was handed over before. -/
theorem withheld_anew_on_each_line {settings : Session.Options}
    {events : List Session.Event} {state next : Session.State Memory}
    {told : List (Session.Event × List (Session.Effect Bytes))}
    {effects : List (Session.Effect Bytes)}
    (ran : Session.run settings (conversation options) .initial events = some (state, told))
    (running : state.isStopped = false)
    (possible : Session.step settings (conversation options) state
      (.connection (.received (.ok (.text frame)))) = some (next, effects)) :
    (effects = if isWithheld options.minSlot (Session.handed (sinceOpening told)) frame then []
      else [.connection (.call frame)]) ∧
    ∀ before recent, told = before ++ recent → openings recent = 0 →
      (Session.handed recent).any (reaches options.minSlot) = true →
        effects = [.connection (.call frame)] := by
  have decided : effects =
      if isWithheld options.minSlot (Session.handed (sinceOpening told)) frame then []
      else [.connection (.call frame)] := by
    cases move_of_step possible with
    | works event connection later done connected permitted moved goes phase =>
        have open_ : connection.stopped = false := by
          simpa only [State.isStopped, connected] using running
        obtain ⟨stored, past, reached, same, -⟩ := reached_of_connected ran connected
        rw [effects_of_text reached open_ moved, handed_of_history same]
        split <;> rfl
    | ends event connection later done connected permitted moved ended concludes =>
        have open_ : connection.stopped = false := by
          simpa only [State.isStopped, connected] using running
        obtain ⟨stored, past, reached, same, -⟩ := reached_of_connected ran connected
        have stopped := stopped_of_closing reached (closing_of_ended moved ended)
        cases stopped.symm.trans open_
  refine ⟨decided, ?_⟩
  intro before recent split alone late
  have since : (Session.handed (sinceOpening told)).any (reaches options.minSlot) = true := by
    rw [split, since_opening_append alone, handed_append, List.any_append, late, Bool.or_true]
  rw [decided, not_withheld_of_late since, if_neg Bool.false_ne_true]

/-- A step back beyond the one that `stepBack` tells of. -/
def stepFurtherBack : Bytes :=
  Text.encodeUtf8 ("\x7b\"method\":\"nextBlock\",\"result\":" ++
    "\x7b\"direction\":\"backward\",\"point\":\x7b\"slot\":4\x7d\x7d\x7d")

theorem parse_step_further_back : Decode.parseBytes stepFurtherBack =
    .ok (.object [("method", .text "nextBlock"), ("result", .object
      [("direction", .text "backward"), ("point", .object [("slot", .int 4)])])]) := by
  decide +kernel

theorem frame_point_step_further_back :
    framePoint? stepFurtherBack = some (.structural { id := "", slot := 4, height := none }) := by
  have filled : stepFurtherBack.isEmpty = false := by decide +kernel
  unfold framePoint? Adaptive.decodeResponse
  rw [parse_step_further_back, filled]
  rfl

/-- A follower that withholds blocks before slot 5 is told to step back to it. Then its line
is dropped, and it is connected again. -/
def overTwoLines : List Session.Event :=
  [.dialed (.ok ()), .loaded (.ok []), .connection .readerStarts,
    .connection (.received (.ok (.text stepBack))), .connection (.called (.ok ())),
    .connection (.received (.error (.of (.dropped none)))), .connection .closerWakes,
    .connection (.closed (.ok ())), .connection .writerStarts, .connection (.sent (.ok ())),
    .connection .writerQuits, .connection .supervisorStarts, .connection .supervisorStops,
    .dialed (.ok ()), .loaded (.ok []), .connection .readerStarts]

theorem run_over_two_lines :
    ∃ state told next, Session.run ⟨true, 0, true⟩ (conversation ⟨1, 10000, 5, []⟩) .initial
        overTwoLines = some (state, told) ∧
      state.isStopped = false ∧ Session.handed told = [stepBack] ∧
      Session.handed (Session.sinceOpening told) = [] ∧
      Session.step ⟨true, 0, true⟩ (conversation ⟨1, 10000, 5, []⟩) state
        (.connection (.received (.ok (.text stepFurtherBack)))) = some (next, []) := by
  have delivers (memory : Memory) (filtering : memory.filtering = true)
      (first : memory.received = 1) :
      (conversation ⟨1, 10000, 5, []⟩).react memory stepBack = .deliver stepBack none
        (remember { memory with filtering := false } stepBack) [] := by
    simp [conversation, react, filtering, frame_point_step_back, isEarly, isLate, deliver,
      checkpoint, first]
  have withholds (memory : Memory) (filtering : memory.filtering = true) :
      (conversation ⟨1, 10000, 5, []⟩).react memory stepFurtherBack = .proceed memory [] := by
    simp [conversation, react, filtering, frame_point_step_further_back, isEarly]
  have clear : (conversation ⟨1, 10000, 5, []⟩).obstacle? [] = none := no_obstacle_to_origin rfl
  -- The second line begins where the points are loaded again.
  rw [← List.take_append_drop 14 overTwoLines]
  exact ⟨_, _, _, Session.run_append
      (Session.run_of_step rfl (Session.run_of_step (Session.step_of_load rfl clear)
        (Session.run_of_step rfl (Session.run_of_step (Session.step_of_connection rfl rfl
          (step_text_of_deliver rfl rfl (delivers _ rfl rfl)) rfl) rfl))))
      (Session.run_of_step (Session.step_of_load rfl clear) rfl),
    rfl, rfl, rfl,
    Session.step_of_connection rfl rfl (step_text_of_proceed rfl rfl (withholds _ rfl)) rfl⟩

theorem withheld_anew_on_each_line_of_two_lines :
    ∃ state told next effects,
      Session.run ⟨true, 0, true⟩ (conversation ⟨1, 10000, 5, []⟩) .initial overTwoLines =
        some (state, told) ∧
      Session.handed told = [stepBack] ∧
      Session.step ⟨true, 0, true⟩ (conversation ⟨1, 10000, 5, []⟩) state
        (.connection (.received (.ok (.text stepFurtherBack)))) = some (next, effects) ∧
      effects = if isWithheld 5 [] stepFurtherBack then []
        else [.connection (.call stepFurtherBack)] := by
  obtain ⟨state, told, next, ran, running, given, nothing, possible⟩ := run_over_two_lines
  have decided := (withheld_anew_on_each_line ran running possible).1
  rw [nothing] at decided
  exact ⟨state, told, next, [], ran, given, possible, decided⟩

/-- Although a late enough step back was handed over, the next one is withheld once the line
was dropped and opened again. -/
theorem step_back_withheld_after_reconnect :
    ∃ state told next,
      Session.run ⟨true, 0, true⟩ (conversation ⟨1, 10000, 5, []⟩) .initial overTwoLines =
        some (state, told) ∧
      state.isStopped = false ∧ (Session.handed told).any (reaches 5) = true ∧
      Session.step ⟨true, 0, true⟩ (conversation ⟨1, 10000, 5, []⟩) state
        (.connection (.received (.ok (.text stepFurtherBack)))) = some (next, []) := by
  obtain ⟨state, told, next, ran, running, given, -, possible⟩ := run_over_two_lines
  have late : reaches 5 stepBack = true := by
    simp [reaches, frameSlot?, frame_point_step_back]
  refine ⟨state, told, next, ran, running, ?_, possible⟩
  rw [given, List.any_cons, late, Bool.true_or]

end NodeBridge.ChainFollower
