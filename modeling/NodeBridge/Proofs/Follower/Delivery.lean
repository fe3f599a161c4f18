import NodeBridge.Proofs.Follower.Memory

/-!
Every text frame that a chain follower hears is handed to its callback once and in order,
apart from the early blocks that it withholds. One callback runs at a time, and the frame
that a callback refused is the last one.
-/

namespace NodeBridge.ChainFollower

open Connection

variable {options : Options} {stored : List Point} {past before after : List (Turn Memory Bytes)}
  {state : State Memory} {turn : Turn Memory Bytes}

theorem settled_before_call {delivery : Bytes}
    (reached : Reached (conversation options) stored (before ++ turn :: after) state)
    (call : Effect.call delivery ∈ turn.effects) :
    Settled before ∧ turn.effects.filterMap Effect.delivery? = [delivery] := by
  obtain ⟨next, earlier, possible⟩ := reached_at reached
  obtain ⟨receiving, alone⟩ := step_of_call possible call
  refine ⟨?_, alone⟩
  exact settled_of_standing (standing_of_reached earlier) (by simp [receiving, Reader.isCalling])
    (by simp [receiving])

/-- A refused frame is the last that is heard and the last that is handed over. -/
theorem last_of_refusal {failure : Failure}
    (reached : Reached (conversation options) stored (before ++ turn :: after) state)
    (refused : turn.event = .called (.error failure)) :
    heard (before ++ turn :: after) = heard before ∧
      ∃ frame, handed (before ++ turn :: after) = taken before ++ [frame] ∧
        (heard before).getLast? = some frame := by
  obtain ⟨next, earlier, possible⟩ := reached_at reached
  rw [refused] at possible
  obtain ⟨save, memory, requests, calling, -⟩ := step_called possible
  obtain ⟨-, texts, calls⟩ := nothing_after_refusal reached refused
  have pending : Pending before := by
    simpa only [Standing, calling] using standing_of_reached earlier
  obtain ⟨frame, open_, -⟩ := pending
  refine ⟨texts, frame, by rw [calls, open_], ?_⟩
  rw [(following_of_reached earlier).latest (by simp [calling, Reader.isCalling]), open_,
    List.getLast?_concat]

/-- What the callback of a chain follower is given in every run. -/
theorem handed_in_order (reached : Reached (conversation options) stored past state) :
    handed past = unwithheld options.minSlot (heard past) ∧
      (∀ earlier frame, isWithheld options.minSlot earlier frame = true ↔
        0 < options.minSlot ∧
          (∃ block, framePoint? frame = some (.structural block) ∧
            block.slot < options.minSlot) ∧
          ∀ other ∈ earlier, ∀ block, framePoint? other = some (.structural block) →
            ¬options.minSlot ≤ block.slot) ∧
      (∀ before turn after delivery, past = before ++ turn :: after →
        Effect.call delivery ∈ turn.effects →
          Settled before ∧ turn.effects.filterMap Effect.delivery? = [delivery]) ∧
      ∀ before turn after failure, past = before ++ turn :: after →
        turn.event = .called (.error failure) →
          heard past = heard before ∧
            ∃ frame, handed past = taken before ++ [frame] ∧
              (heard before).getLast? = some frame := by
  refine ⟨(following_of_reached reached).delivered, is_withheld_iff options.minSlot, ?_, ?_⟩
  · rintro before turn after delivery rfl call
    exact settled_before_call reached call
  · rintro before turn after failure rfl refused
    exact last_of_refusal reached refused

theorem run_of_early_block {frame : Bytes} {block : BlockPoint}
    (point : framePoint? frame = some (.structural block)) (early : block.slot < 10) :
    ∃ past state, Reached (conversation ⟨1, 1, 10, []⟩) [] past state ∧
      heard past = [frame, []] ∧ handed past = [[]] := by
  have withheld (memory : Memory) (filtering : memory.filtering = true) :
      (conversation ⟨1, 1, 10, []⟩).react memory frame = .proceed memory [] := by
    simp only [conversation, react, filtering, point, isEarly, early, decide_true, if_true]
  have begins : Reached (conversation ⟨1, 1, 10, []⟩) [] [] _ := .start
  have starts := begins.step (show step _ _ .readerStarts = some (_, _) from rfl)
  have passes := starts.step (step_text_of_proceed rfl rfl (withheld _ rfl))
  have hands := passes.step
    (show step _ _ (.received (.ok (.text []))) = some (_, _) from rfl)
  exact ⟨_, _, hands, rfl, rfl⟩

theorem handed_in_order_of_early_block :
    ∃ past state, Reached (conversation ⟨1, 1, 10, []⟩) [] past state ∧
      heard past = [stepBack, []] ∧ handed past = [[]] ∧
      handed past = unwithheld 10 (heard past) := by
  obtain ⟨past, state, reached, texts, calls⟩ :=
    run_of_early_block frame_point_step_back (by decide)
  exact ⟨past, state, reached, texts, calls, (handed_in_order reached).1⟩

end NodeBridge.ChainFollower
