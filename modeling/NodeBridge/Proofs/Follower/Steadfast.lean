import NodeBridge.Proofs.Adaptive.Complaints
import NodeBridge.Proofs.Adaptive.Retelling
import NodeBridge.Proofs.Connection.Closing
import NodeBridge.Proofs.Connection.Faults
import NodeBridge.Proofs.Document.Digits
import NodeBridge.Proofs.Follower.Memory

/-!
No frame brings a chain follower down. Whatever its bytes are, looking for the point of a frame
meets no other obstacle than documents that cannot be used, and these are passed over; so the
follower takes every frame, and it goes on until its end is asked for.
-/

namespace NodeBridge

namespace Current

/-- The point that a step along the chain names. -/
def BlockResult.named? (result : BlockResult) : Option Point :=
  if result.direction = forward then result.block.map fun block => .structural block.point
  else if result.direction = backward then result.point
  else none

/-- Whether a response to the request for the next block holds nothing but a step along the
chain. -/
def Response.IsOrderly (response : Response) : Prop :=
  response.method = nextBlock → ∀ result, response.result = some result →
    ∃ step, result = .block step

theorem Response.HoldsOutcome.orderly {response : Response} (outcome : response.HoldsOutcome) :
    response.IsOrderly := by
  intro isNext result holds
  cases outcome with
  | intersection found search =>
      have other : ¬findIntersection = nextBlock := by decide
      exact absurd (search.symm.trans isNext) other
  | step found method there =>
      rw [there] at holds
      cases holds
      exact ⟨found, rfl⟩
  | failure report none =>
      rw [none] at holds
      cases holds

end Current

theorem Adaptive.orderly_of_decode {frame : Bytes} {sent : Current.Response}
    (decodes : Adaptive.decodeResponse frame = .ok sent) : sent.IsOrderly := by
  obtain ⟨json, -, read⟩ := bind_eq_ok.mp decodes
  exact (Adaptive.outcome_of_decode read).orderly

/-- Looks for the point of a frame. Only what says that the document cannot be used is passed
over; any other error gets out. -/
def seekPoint (frame : Bytes) : Converted (Option Point) :=
  if frame.isEmpty then .ok none
  else
    match Adaptive.decodeResponse frame with
    | .error error => if error.isPassedOver then .ok none else .error error
    | .ok response =>
        if response.method ≠ Current.nextBlock ∨ response.result = none then .ok none
        else (response.blockResult.mapError .misuse).map Current.BlockResult.named?

/-- Looks for the first point that frames name. -/
def seekFirstPoint : List Bytes → Converted (Option Point)
  | [] => .ok none
  | frame :: frames => do
      match ← seekPoint frame with
      | some point => .ok (some point)
      | none => seekFirstPoint frames

theorem point_of_block_result {response : Current.Response} {result : Current.BlockResult}
    (holds : response.blockResult = .ok result) : response.point? = result.named? := by
  simp only [Current.Response.point?, holds, Current.BlockResult.named?]

/-- A response of another method, or without a result, names no point. -/
theorem no_point_of_unanswered {response : Current.Response}
    (without : response.method ≠ Current.nextBlock ∨ response.result = none) :
    response.point? = none := by
  unfold Current.Response.point? Current.Response.blockResult
  rcases without with other | nothing
  · rw [if_pos other]
  · rw [nothing]
    split_ifs <;> rfl

/-- An orderly response that holds an answer to the request for the next block can be asked for
it. -/
theorem block_result_of_orderly {response : Current.Response} (orderly : response.IsOrderly)
    (method : response.method = Current.nextBlock) (answered : response.result ≠ none) :
    ∃ step, response.blockResult = .ok step := by
  obtain ⟨result, holds⟩ := Option.ne_none_iff_exists'.mp answered
  obtain ⟨step, rfl⟩ := orderly method result holds
  refine ⟨step, ?_⟩
  unfold Current.Response.blockResult
  rw [if_neg (not_not.mpr method), holds]

/-- Looking for the point of a frame comes to a result. -/
theorem seek_point (frame : Bytes) : seekPoint frame = .ok (framePoint? frame) := by
  unfold seekPoint framePoint?
  split
  · rfl
  · cases decodes : Adaptive.decodeResponse frame with
    | error error =>
        dsimp only
        rw [if_pos (Adaptive.passes_over_decode_response frame error decodes)]
    | ok response =>
        dsimp only
        split
        · next without => rw [no_point_of_unanswered without]
        · next asked =>
            rw [not_or, not_not] at asked
            obtain ⟨step, answers⟩ :=
              block_result_of_orderly (Adaptive.orderly_of_decode decodes) asked.1 asked.2
            rw [answers, point_of_block_result answers]
            rfl

theorem seek_first_point (frames : List Bytes) :
    seekFirstPoint frames = .ok (firstPoint? frames) := by
  induction frames with
  | nil => rfl
  | cons frame frames induction =>
      rw [seekFirstPoint, seek_point, firstPoint?, List.findSome?_cons]
      cases framePoint? frame with
      | none => exact induction
      | some point => rfl

namespace ChainFollower

open Connection

theorem never_refuses (options : Options) : (conversation options).NeverRefuses := by
  intro memory content failure
  show react options memory content ≠ .refuse failure
  unfold react
  split
  · dsimp only
    split <;> simp [deliver]
  · simp [deliver]

/-- Whatever the frames are that a chain follower gets, it does not fail over them. The point of
any frames is found or there is none, for nothing that can be wrong with a frame gets out of
the readers: only complaints and eras that are not supported, and no number that a message
could not show. Unless something goes wrong outside, the connection has no failure, it goes on
until its end is asked for, and then it does not come to rest before its end. -/
theorem unfailing_over_frames :
    (∀ frames, seekFirstPoint frames = .ok (firstPoint? frames)) ∧
      (∀ json, Complains (Current.Response.ofJson json) ∧
        Complains (Legacy.Response.ofJson json)) ∧
      (∀ legacy : Legacy.Response, PassesOver legacy.toCurrent) ∧
      (∀ frame, PassesOver (Adaptive.decodeResponse frame)) ∧
      (∀ frame json, Decode.parseBytes frame = .ok json → json.isWritable = true) ∧
      ∀ options stored past state, Reached (conversation options) stored past state →
        (∀ turn ∈ past, turn.state.suffers turn.event = false) →
          state.failure = none ∧
            (state.isEnding = true → ∃ turn ∈ past, turn.event.isFarewell = true) ∧
            (state.stopped = true → state.reader.isCalling = false →
              (∀ event, event.isDue state = true →
                step (conversation options) state event = none) → state.ended = true) := by
  refine ⟨seek_first_point, ?_, Legacy.Response.passes_over_to_current,
    Adaptive.passes_over_decode_response, fun _ _ => Decode.writable_of_parse_bytes, ?_⟩
  · intro json
    exact ⟨Current.Response.complains_of_json json, Legacy.Response.complains_of_json json⟩
  · intro options stored past state reached calm
    obtain ⟨unfailing, asked⟩ := unfailing_of_reached (never_refuses options) reached calm
    exact ⟨unfailing, asked, fun stopped resting still => ended_of_still stopped still resting⟩

/-- A run in which a frame of no meaning is handed over and taken. -/
theorem run_of_garbage : ∃ past state,
    Reached (conversation ⟨1, 1, 10, []⟩) [] past state ∧ handed past = [[0xff]] ∧
      ∀ turn ∈ past, turn.state.suffers turn.event = false := by
  have begins : Reached (conversation ⟨1, 1, 10, []⟩) [] [] _ := .start
  have starts := begins.step (show step _ _ .readerStarts = some (_, _) from rfl)
  have hands := starts.step
    (show step _ _ (.received (.ok (.text [0xff]))) = some (_, _) from rfl)
  have takes := hands.step (show step _ _ (.called (.ok ())) = some (_, _) from rfl)
  refine ⟨_, _, takes, rfl, ?_⟩
  simp [State.suffers, Except.isOk, Except.toBool]

theorem unfailing_over_frames_of_garbage :
    seekFirstPoint [[0xff], stepBack] = .ok (some (.structural ⟨"", 5, none⟩)) ∧
      ∃ past state, Reached (conversation ⟨1, 1, 10, []⟩) [] past state ∧
        handed past = [[0xff]] ∧ state.failure = none := by
  obtain ⟨past, state, reached, handedOver, calm⟩ := run_of_garbage
  obtain ⟨seeks, -, -, -, -, runs⟩ := unfailing_over_frames
  refine ⟨?_, past, state, reached, handedOver, (runs _ _ _ _ reached calm).1⟩
  rw [seeks, firstPoint?, List.findSome?_cons, List.findSome?_cons, frame_point_step_back]
  rfl

end ChainFollower

end NodeBridge
