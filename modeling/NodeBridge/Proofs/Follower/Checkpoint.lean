import Mathlib.Data.List.DropRight
import NodeBridge.Proofs.Follower.Memory

/-!
The points that a chain follower saves. Whatever is saved is the point of the latest frame
that was handed over, taken without a failure and has a point; a conversation that ends in
good order saves the point of its last few frames once more.
-/

namespace NodeBridge.ChainFollower

open Connection

/-- A point is that of the latest of some frames that has one. -/
def LatestPoint (frames : List Bytes) (point : Point) : Prop :=
  ∃ earlier frame later, frames = earlier ++ frame :: later ∧ framePoint? frame = some point ∧
    ∀ other ∈ later, framePoint? other = none

theorem latest_point_iff (frames : List Bytes) (point : Point) :
    LatestPoint frames point ↔ firstPoint? frames.reverse = some point := by
  unfold LatestPoint firstPoint?
  rw [List.findSome?_eq_some_iff]
  constructor
  · rintro ⟨earlier, frame, later, rfl, found, rest⟩
    refine ⟨later.reverse, frame, earlier.reverse, by simp, found, ?_⟩
    intro other member
    exact rest other (List.mem_reverse.mp member)
  · rintro ⟨later, frame, earlier, split, found, rest⟩
    refine ⟨earlier.reverse, frame, later.reverse, ?_, found, ?_⟩
    · rw [← List.reverse_reverse frames, split]
      simp
    · intro other member
      exact rest other (List.mem_reverse.mp member)

section

variable {options : Options} {stored : List Point}
  {past before after : List (Turn Memory Bytes)} {state : State Memory}
  {turn : Turn Memory Bytes} {point : Point}

theorem parting_of_receiving (reached : Reached (conversation options) stored past state)
    (receiving : state.reader = .receiving) {memory : Memory}
    (which : memory = state.memory ∨ memory = (conversation options).count state.memory) :
    (conversation options).parting memory =
      firstPoint? ((handed past).reverse.take recentFrames) := by
  have recent := (following_of_reached reached).recent (by simp [receiving, Reader.isDone])
  have outlook : state.outlook = state.memory := by simp [State.outlook, receiving]
  rw [outlook] at recent
  have same : memory.recent = state.memory.recent := by
    rcases which with rfl | rfl
    · rfl
    · rfl
  rw [← recent, ← same]
  rfl

theorem settled_of_receiving (reached : Reached (conversation options) stored past state)
    (receiving : state.reader = .receiving) : Settled past :=
  settled_of_standing (standing_of_reached reached) (by simp [receiving, Reader.isCalling])
    (by simp [receiving])

/-- A saved point is that of the latest frame that was taken and has one, and at that time
nothing is handed over that was not taken. -/
theorem saved_point_latest
    (reached : Reached (conversation options) stored (before ++ turn :: after) state)
    (save : Effect.save point ∈ turn.effects) :
    handed (before ++ [turn]) = taken (before ++ [turn]) ∧
      LatestPoint (taken (before ++ [turn])) point := by
  obtain ⟨next, earlier, possible⟩ := reached_at reached
  have standing := standing_of_reached earlier
  rcases step_of_save possible save with
    ⟨answer, effects, memory, requests, calling⟩ |
    ⟨outcome, memory, received, receiving, -, nothing, which, parting⟩
  · have pending : Pending before := by simpa only [Standing, calling] using standing
    have calls : turn.effects.filterMap Effect.delivery? = [] := by rw [effects]; rfl
    have settled : Settled (before ++ [turn]) :=
      settled_snoc_of_taken pending calls (by rw [answer]; rfl)
    refine ⟨settled.1, ?_⟩
    rw [← settled.1, latest_point_iff, handed_snoc, calls, List.append_nil]
    exact (following_of_reached earlier).pending point memory requests calling
  · have settled : Settled (before ++ [turn]) :=
      settled_snoc (settled_of_receiving earlier receiving) nothing (by rw [received]; rfl)
    refine ⟨settled.1, ?_⟩
    rw [parting_of_receiving earlier receiving which] at parting
    rw [← settled.1, latest_point_iff, handed_snoc, nothing, List.append_nil]
    exact first_point_of_take parting

theorem saves_at_end {outcome : Except Failure Frame}
    (reached : Reached (conversation options) stored (before ++ turn :: after) state)
    (received : turn.event = .received outcome) (ends : turn.state.endsWith outcome = true) :
    saves (turn :: after) = (firstPoint? ((taken before).rtake 3).reverse).toList := by
  obtain ⟨next, earlier, possible⟩ := reached_at reached
  rw [received] at possible
  have receiving := (step_received possible).1
  obtain ⟨-, memory, which, saved⟩ := saves_after_end reached received ends
  rw [saved, parting_of_receiving earlier receiving which,
    (settled_of_receiving earlier receiving).1, List.rtake_eq_reverse_take_reverse,
    List.reverse_reverse]
  rfl

/-- What a chain follower saves in every run. -/
theorem checkpoint_sound (reached : Reached (conversation options) stored past state) :
    (∀ before turn after point, past = before ++ turn :: after →
      Effect.save point ∈ turn.effects →
        handed (before ++ [turn]) = taken (before ++ [turn]) ∧
          LatestPoint (taken (before ++ [turn])) point) ∧
      ∀ before turn after outcome, past = before ++ turn :: after →
        turn.event = .received outcome → turn.state.endsWith outcome = true →
          (∀ point, LatestPoint ((taken before).rtake 3) point →
            saves (turn :: after) = [point]) ∧
          ((∀ frame ∈ (taken before).rtake 3, framePoint? frame = none) →
            saves (turn :: after) = []) := by
  constructor
  · rintro before turn after point rfl save
    exact saved_point_latest reached save
  · rintro before turn after outcome rfl received ends
    rw [saves_at_end reached received ends]
    constructor
    · intro point latest
      rw [(latest_point_iff _ _).mp latest]
      rfl
    · intro none
      have nothing : firstPoint? ((taken before).rtake 3).reverse = .none := by
        rw [firstPoint?, List.findSome?_eq_none_iff]
        intro frame member
        exact none frame (List.mem_reverse.mp member)
      rw [nothing]
      rfl

end

theorem run_of_taken_frame {frame : Bytes} {point : Point}
    (named : framePoint? frame = some point) :
    ∃ before turn state, Reached (conversation ⟨1, 100, 0, []⟩) [] (before ++ [turn]) state ∧
      taken before = [frame] ∧ turn.event = .received (.ok .close) ∧
      turn.effects = [.save point] := by
  have delivers (memory : Memory) (filtering : memory.filtering = false)
      (first : memory.received = 1) :
      (conversation ⟨1, 100, 0, []⟩).react memory frame =
        .deliver frame none (remember memory frame) [] := by
    simp [conversation, react, filtering, deliver, checkpoint, first]
  have begins : Reached (conversation ⟨1, 100, 0, []⟩) [] [] _ := .start
  have starts := begins.step (show step _ _ .readerStarts = some (_, _) from rfl)
  have hands := starts.step (step_text_of_deliver rfl rfl (delivers _ rfl rfl))
  have takes := hands.step (show step _ _ (.called (.ok ())) = some (_, _) from rfl)
  have last : firstPoint? [frame] = some point := by
    simp [firstPoint?, named]
  obtain ⟨state, parts⟩ := reached_close_of_parting takes rfl rfl last
  exact ⟨_, _, state, parts, rfl, rfl, rfl⟩

theorem checkpoint_sound_of_step_back :
    ∃ before turn state point, Reached (conversation ⟨1, 100, 0, []⟩) [] (before ++ [turn]) state ∧
      Effect.save point ∈ turn.effects ∧ LatestPoint (taken (before ++ [turn])) point ∧
      saves [turn] = [point] := by
  obtain ⟨before, turn, state, reached, all, received, effects⟩ :=
    run_of_taken_frame frame_point_step_back
  have save : Effect.save (.structural { id := "", slot := 5, height := none }) ∈ turn.effects := by
    simp [effects]
  have sound := checkpoint_sound reached
  have latest : LatestPoint ((taken before).rtake 3)
      (.structural { id := "", slot := 5, height := none }) := by
    rw [all]
    exact ⟨[], stepBack, [], rfl, frame_point_step_back, by simp⟩
  exact ⟨before, turn, state, _, reached, save, (sound.1 before turn [] _ rfl save).2,
    (sound.2 before turn [] _ rfl received rfl).1 _ latest⟩

end NodeBridge.ChainFollower
