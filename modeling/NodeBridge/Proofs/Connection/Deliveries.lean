import Mathlib.Data.List.TakeWhile
import NodeBridge.Proofs.Connection.Reader

/-!
The deliveries of a run. Calls are made one at a time: a delivery is handed over only after
the one before it was taken, and nothing is handed over after a refusal. What came from the
line before the end of the conversation is told apart from what ends it, and once the
conversation has ended in good order the last point is saved once and nothing follows.
-/

namespace NodeBridge.Connection

def Event.answer? : Event → Option (Except Failure Unit)
  | .called outcome => some outcome
  | _ => none

def Event.receipt? : Event → Option (Except Failure Frame)
  | .received outcome => some outcome
  | _ => none

section

variable {Memory Delivery : Type}

/-- All that was handed over, in order. -/
def handed (past : List (Turn Memory Delivery)) : List Delivery :=
  past.flatMap fun turn => turn.effects.filterMap Effect.delivery?

def answers (past : List (Turn Memory Delivery)) : List (Except Failure Unit) :=
  past.filterMap fun turn => turn.event.answer?

/-- What was handed over and taken without a failure: the calls end in the order in which
they were made. -/
def taken (past : List (Turn Memory Delivery)) : List Delivery :=
  ((handed past).zip (answers past)).filterMap fun call =>
    if call.2.isOk then some call.1 else none

def saves (past : List (Turn Memory Delivery)) : List Point :=
  past.flatMap fun turn => turn.effects.filterMap Effect.point?

/-- All that came from the line, each beside whether the conversation ended with it. -/
def receipts (past : List (Turn Memory Delivery)) : List (Except Failure Frame × Bool) :=
  past.filterMap fun turn =>
    turn.event.receipt?.map fun outcome => (outcome, turn.state.endsWith outcome)

/-- The text frames that came before the conversation ended. -/
def heard (past : List (Turn Memory Delivery)) : List Bytes :=
  ((receipts past).takeWhile fun receipt => !receipt.2).filterMap fun receipt =>
    textOf? receipt.1

/-- Every call was answered, and everything handed over was taken. -/
def Settled (past : List (Turn Memory Delivery)) : Prop :=
  handed past = taken past ∧ (answers past).length = (taken past).length

/-- The latest call has no answer yet, and everything before it was taken. -/
def Pending (past : List (Turn Memory Delivery)) : Prop :=
  ∃ delivery, handed past = taken past ++ [delivery] ∧
    (answers past).length = (taken past).length

/-- The latest call was refused, and everything before it was taken. -/
def Refused (past : List (Turn Memory Delivery)) : Prop :=
  ∃ delivery earlier failure, handed past = taken past ++ [delivery] ∧
    answers past = earlier ++ [.error failure] ∧ earlier.length = (taken past).length

/-- How the calls stand, by what the reader is doing. -/
def Standing (past : List (Turn Memory Delivery)) (state : State Memory) : Prop :=
  match state.reader with
  | .calling _ _ _ => Pending past
  | .ended => Settled past ∨ Refused past
  | _ => Settled past

/-- The conversation has not ended. -/
def Unended (past : List (Turn Memory Delivery)) : Prop :=
  ∀ receipt ∈ receipts past, receipt.2 = false

variable {conversation : Conversation Memory Delivery} {stored : List Point}
  {past : List (Turn Memory Delivery)} {state next : State Memory} {event : Event}
  {effects : List (Effect Delivery)} {turn : Turn Memory Delivery}

/-! How the records grow by one turn. -/

@[simp] theorem handed_snoc : handed (past ++ [turn]) =
    handed past ++ turn.effects.filterMap Effect.delivery? := by
  simp [handed]

@[simp] theorem answers_snoc : answers (past ++ [turn]) =
    answers past ++ turn.event.answer?.toList := by
  simp only [answers, List.filterMap_append]
  cases answer : turn.event.answer? <;> simp [answer]

@[simp] theorem saves_snoc : saves (past ++ [turn]) =
    saves past ++ turn.effects.filterMap Effect.point? := by
  simp [saves]

theorem receipts_snoc : receipts (past ++ [turn]) = receipts past ++
    (turn.event.receipt?.map fun outcome =>
      (outcome, turn.state.endsWith outcome)).toList := by
  simp only [receipts, List.filterMap_append]
  cases receipt : turn.event.receipt? <;> simp [receipt]

theorem receipts_snoc_of_none (none : turn.event.receipt? = none) :
    receipts (past ++ [turn]) = receipts past := by
  simp [receipts_snoc, none]

theorem heard_snoc_of_none (none : turn.event.receipt? = none) :
    heard (past ++ [turn]) = heard past := by
  simp [heard, receipts_snoc_of_none none]

theorem heard_of_unended (unended : Unended past) :
    heard past = (receipts past).filterMap fun receipt => textOf? receipt.1 := by
  unfold heard
  congr 1
  rw [List.takeWhile_eq_self_iff]
  intro receipt member
  simp [unended receipt member]

theorem heard_snoc {outcome : Except Failure Frame} (unended : Unended past)
    (received : turn.event = .received outcome) :
    heard (past ++ [turn]) = heard past ++
      if turn.state.endsWith outcome then [] else (textOf? outcome).toList := by
  have all : ∀ receipt ∈ receipts past, (!receipt.2) = true := by
    intro receipt member
    simp [unended receipt member]
  rw [heard_of_unended unended]
  unfold heard
  rw [receipts_snoc, received]
  simp only [Event.receipt?, Option.map_some, Option.toList_some]
  rw [List.takeWhile_append_of_pos all]
  cases ends : turn.state.endsWith outcome <;> cases text : textOf? outcome <;>
    simp [text]

theorem unended_snoc (unended : Unended past)
    (continues : ∀ outcome, turn.event = .received outcome →
      turn.state.endsWith outcome = false) : Unended (past ++ [turn]) := by
  intro receipt member
  rw [receipts_snoc, List.mem_append] at member
  rcases member with earlier | latest
  · exact unended receipt earlier
  · cases event : turn.event <;> simp_all [Event.receipt?]

theorem zip_append_left {α β : Type} (calls more : List α) (ends : List β)
    (short : ends.length ≤ calls.length) : (calls ++ more).zip ends = calls.zip ends := by
  induction calls generalizing ends with
  | nil =>
      have empty : ends = [] := List.eq_nil_of_length_eq_zero (by simpa using short)
      simp [empty]
  | cons call calls induction =>
      cases ends with
      | nil => simp
      | cons ending ends =>
          simp only [List.cons_append, List.zip_cons_cons]
          rw [induction ends (by simpa using short)]

theorem taken_snoc_of_no_answer (balanced : (answers past).length ≤ (handed past).length)
    (none : turn.event.answer? = none) : taken (past ++ [turn]) = taken past := by
  unfold taken
  rw [handed_snoc, answers_snoc, none, Option.toList_none, List.append_nil,
    zip_append_left _ _ _ balanced]

/-! No call is answered before it is made. -/

theorem Settled.balanced (settled : Settled past) :
    (answers past).length ≤ (handed past).length := by
  rw [settled.1]
  exact settled.2.le

theorem Pending.balanced (pending : Pending past) :
    (answers past).length ≤ (handed past).length := by
  obtain ⟨delivery, open_, same⟩ := pending
  rw [open_, List.length_append]
  omega

theorem Refused.balanced (refused : Refused past) :
    (answers past).length ≤ (handed past).length := by
  obtain ⟨delivery, earlier, failure, open_, ends, same⟩ := refused
  rw [open_, ends, List.length_append, List.length_append, same]
  exact le_rfl

/-! How the calls stand after every run. -/

theorem settled_snoc (settled : Settled past)
    (calls : turn.effects.filterMap Effect.delivery? = [])
    (none : turn.event.answer? = none) : Settled (past ++ [turn]) := by
  unfold Settled
  rw [taken_snoc_of_no_answer settled.balanced none, handed_snoc, answers_snoc, calls, none,
    List.append_nil, Option.toList_none, List.append_nil]
  exact settled

theorem pending_snoc_of_call {delivery : Delivery} (settled : Settled past)
    (calls : turn.effects.filterMap Effect.delivery? = [delivery])
    (none : turn.event.answer? = none) : Pending (past ++ [turn]) := by
  refine ⟨delivery, ?_, ?_⟩
  · rw [taken_snoc_of_no_answer settled.balanced none, handed_snoc, calls, settled.1]
  · rw [taken_snoc_of_no_answer settled.balanced none, answers_snoc, none, Option.toList_none,
      List.append_nil]
    exact settled.2

theorem pending_snoc (pending : Pending past)
    (calls : turn.effects.filterMap Effect.delivery? = [])
    (none : turn.event.answer? = none) : Pending (past ++ [turn]) := by
  have balanced := pending.balanced
  obtain ⟨delivery, open_, same⟩ := pending
  refine ⟨delivery, ?_, ?_⟩
  · rw [taken_snoc_of_no_answer balanced none, handed_snoc, calls, open_, List.append_nil]
  · rw [taken_snoc_of_no_answer balanced none, answers_snoc, none, Option.toList_none,
      List.append_nil]
    exact same

theorem refused_snoc (refused : Refused past)
    (calls : turn.effects.filterMap Effect.delivery? = [])
    (none : turn.event.answer? = none) : Refused (past ++ [turn]) := by
  have balanced := refused.balanced
  obtain ⟨delivery, earlier, failure, open_, ends, same⟩ := refused
  refine ⟨delivery, earlier, failure, ?_, ?_, ?_⟩
  · rw [taken_snoc_of_no_answer balanced none, handed_snoc, calls, open_, List.append_nil]
  · rw [answers_snoc, none, ends, Option.toList_none, List.append_nil]
  · rw [taken_snoc_of_no_answer balanced none, same]

/-- The answer to the call that is pending counts for what that call handed over. -/
theorem taken_snoc_of_answer {delivery : Delivery} {outcome : Except Failure Unit}
    (open_ : handed past = taken past ++ [delivery])
    (balanced : (answers past).length = (taken past).length)
    (calls : turn.effects.filterMap Effect.delivery? = [])
    (answer : turn.event.answer? = some outcome) :
    taken (past ++ [turn]) = taken past ++ if outcome.isOk then [delivery] else [] := by
  have earlier : (handed past).zip (answers past) = (taken past).zip (answers past) := by
    rw [open_]
    exact zip_append_left _ _ _ balanced.le
  have both : (handed (past ++ [turn])).zip (answers (past ++ [turn])) =
      (handed past).zip (answers past) ++ [(delivery, outcome)] := by
    rw [handed_snoc, answers_snoc, calls, answer, List.append_nil, Option.toList_some, earlier,
      open_, List.zip_append balanced.symm]
    rfl
  rw [taken, both, List.filterMap_append]
  congr 1
  cases outcome <;> rfl

theorem settled_snoc_of_taken (pending : Pending past)
    (calls : turn.effects.filterMap Effect.delivery? = [])
    (answer : turn.event.answer? = some (.ok ())) : Settled (past ++ [turn]) := by
  obtain ⟨delivery, open_, balanced⟩ := pending
  have grown := taken_snoc_of_answer open_ balanced calls answer
  refine ⟨?_, ?_⟩
  · rw [grown, handed_snoc, calls, open_, List.append_nil]
    rfl
  · rw [grown, answers_snoc, answer]
    simpa [Except.isOk, Except.toBool] using balanced

theorem refused_snoc_of_refusal {failure : Failure} (pending : Pending past)
    (calls : turn.effects.filterMap Effect.delivery? = [])
    (answer : turn.event.answer? = some (.error failure)) : Refused (past ++ [turn]) := by
  obtain ⟨delivery, open_, balanced⟩ := pending
  have grown := taken_snoc_of_answer open_ balanced calls answer
  have same : taken (past ++ [turn]) = taken past := by
    rw [grown]
    exact List.append_nil _
  refine ⟨delivery, answers past, failure, ?_, ?_, ?_⟩
  · rw [same, handed_snoc, calls, open_, List.append_nil]
  · rw [answers_snoc, answer, Option.toList_some]
  · rw [same, balanced]

theorem settled_of_standing (standing : Standing past state)
    (calm : state.reader.isCalling = false) (running : state.reader ≠ .ended) :
    Settled past := by
  unfold Standing at standing
  split at standing
  · next calling => simp [calling, Reader.isCalling] at calm
  · next ended => exact absurd ended running
  · exact standing

theorem standing_of_settled (settled : Settled past) (calm : state.reader.isCalling = false) :
    Standing past state := by
  unfold Standing
  split
  · next calling => simp [calling, Reader.isCalling] at calm
  · exact .inl settled
  · exact settled

theorem calm_of_done (done : state.reader.isDone = true) : state.reader.isCalling = false := by
  cases reader : state.reader <;> simp_all [Reader.isDone, Reader.isCalling]

theorem standing_of_receipt {outcome : Except Failure Frame} (settled : Settled past)
    (receipt : Receipt conversation state outcome next turn.effects)
    (none : turn.event.answer? = none) : Standing (past ++ [turn]) next := by
  cases receipt with
  | ends memory ends which done saves =>
      have calls : turn.effects.filterMap Effect.delivery? = [] := by
        rw [saves]
        cases conversation.parting memory <;> rfl
      exact standing_of_settled (settled_snoc settled calls none) (calm_of_done done)
  | breaks goes other finished nothing
  | refuses content failure goes text reacts finished nothing =>
      apply standing_of_settled (settled_snoc settled (by rw [nothing]; rfl) none)
      rw [finished]
      rfl
  | passes goes other reader kept calls saves =>
      apply standing_of_settled (settled_snoc settled calls none)
      rcases reader with same | ponging
      · rw [same]
        rfl
      · rw [ponging]
        rfl
  | proceeds content memory requests goes text reacts reader kept nothing =>
      apply standing_of_settled (settled_snoc settled (by rw [nothing]; rfl) none)
      rw [reader]
      rfl
  | delivers content delivery save memory requests goes text reacts reader call =>
      have pending : Pending (past ++ [turn]) :=
        pending_snoc_of_call settled (by rw [call]; rfl) none
      unfold Standing
      rw [reader]
      exact pending

theorem standing_snoc (standing : Standing past state)
    (possible : step conversation state event = some (next, effects)) :
    Standing (past ++ [⟨state, event, effects⟩]) next := by
  cases event with
  | supervisorStarts | supervisorStops | stopFollowed | closerWakes | closed outcome |
    writerStarts | writerTakes | writerResumes | writerQuits | sent outcome =>
      obtain ⟨reader, -, calls, -⟩ := step_of_others rfl possible
      unfold Standing at standing ⊢
      rw [reader]
      split at standing
      · exact pending_snoc standing calls rfl
      · rcases standing with settled | refused
        · exact .inl (settled_snoc settled calls rfl)
        · exact .inr (refused_snoc refused calls rfl)
      · exact settled_snoc standing calls rfl
  | readerStarts =>
      obtain ⟨starting, rfl, rfl⟩ := step_starts possible
      have settled := settled_of_standing standing (by simp [starting, Reader.isCalling])
        (by simp [starting])
      exact settled_snoc settled rfl rfl
  | received outcome =>
      obtain ⟨receiving, receipt⟩ := step_received possible
      have settled := settled_of_standing standing (by simp [receiving, Reader.isCalling])
        (by simp [receiving])
      exact standing_of_receipt settled receipt rfl
  | ponged outcome =>
      obtain ⟨ponging, rfl, ends⟩ := step_ponged possible
      have settled := settled_of_standing standing (by simp [ponging, Reader.isCalling])
        (by simp [ponging])
      have still : Settled (past ++ [⟨state, .ponged outcome, []⟩]) :=
        settled_snoc settled rfl rfl
      rcases ends with rfl | ⟨failure, rfl⟩
      · exact still
      · exact .inl still
  | called outcome =>
      obtain ⟨save, memory, requests, calling, ends⟩ := step_called possible
      have pending : Pending past := by simpa only [Standing, calling] using standing
      rcases ends with ⟨point, rfl, -, rfl, rfl⟩ | ⟨rfl, -, rfl, rfl⟩ | ⟨failure, rfl, rfl, rfl⟩
      · exact settled_snoc_of_taken pending rfl rfl
      · exact settled_snoc_of_taken pending rfl rfl
      · exact .inr (refused_snoc_of_refusal pending rfl rfl)
  | saved outcome =>
      obtain ⟨rfl, ends⟩ := step_saved possible
      rcases ends with ⟨memory, requests, saving, goes⟩ | ⟨context, parting, finished⟩
      · have settled := settled_of_standing standing (by simp [saving, Reader.isCalling])
          (by simp [saving])
        have still : Settled (past ++ [⟨state, .saved outcome, []⟩]) :=
          settled_snoc settled rfl rfl
        rcases goes with rfl | ⟨failure, rfl⟩
        · exact still
        · exact .inl still
      · have settled := settled_of_standing standing (by simp [parting, Reader.isCalling])
          (by simp [parting])
        apply standing_of_settled (settled_snoc settled rfl rfl)
        rw [finished]
        rfl

theorem standing_of_reached (reached : Reached conversation stored past state) :
    Standing past state := by
  induction reached with
  | start => exact ⟨rfl, rfl⟩
  | step reached possible standing => exact standing_snoc standing possible

/-! How a conversation ends. -/

theorem step_of_done (done : state.reader.isDone = true)
    (possible : step conversation state event = some (next, effects)) :
    next.reader.isDone = true ∧ event.receipt? = none ∧
      effects.filterMap Effect.delivery? = [] ∧ effects.filterMap Effect.point? = [] := by
  cases event with
  | supervisorStarts | supervisorStops | stopFollowed | closerWakes | closed outcome |
    writerStarts | writerTakes | writerResumes | writerQuits | sent outcome =>
      obtain ⟨reader, -, calls, saved⟩ := step_of_others rfl possible
      exact ⟨reader ▸ done, rfl, calls, saved⟩
  | readerStarts =>
      obtain ⟨starting, -⟩ := step_starts possible
      simp [starting, Reader.isDone] at done
  | received outcome =>
      obtain ⟨receiving, -⟩ := step_received possible
      simp [receiving, Reader.isDone] at done
  | ponged outcome =>
      obtain ⟨ponging, -⟩ := step_ponged possible
      simp [ponging, Reader.isDone] at done
  | called outcome =>
      obtain ⟨save, memory, requests, calling, -⟩ := step_called possible
      simp [calling, Reader.isDone] at done
  | saved outcome =>
      obtain ⟨rfl, ⟨memory, requests, saving, -⟩ | ⟨context, -, finished⟩⟩ := step_saved possible
      · simp [saving, Reader.isDone] at done
      · exact ⟨by rw [finished]; rfl, rfl, rfl, rfl⟩

theorem unended_of_reached (reached : Reached conversation stored past state)
    (listening : state.reader.isDone = false) : Unended past := by
  induction reached with
  | start => simp [Unended, receipts]
  | @step past state next event effects reached possible induction =>
      have before : state.reader.isDone = false := by
        cases done : state.reader.isDone with
        | false => rfl
        | true => rw [(step_of_done done possible).1] at listening; cases listening
      apply unended_snoc (induction before)
      rintro outcome rfl
      cases (step_received possible).2 with
      | ends memory ends which done saves =>
          rw [done] at listening
          cases listening
      | breaks goes | passes goes | proceeds content memory requests goes
      | delivers content delivery save memory requests goes | refuses content failure goes =>
          exact goes

/-- When the conversation ends in good order, the last point is saved once if there is one,
and nothing is saved after it. -/
theorem saves_after_end {before after : List (Turn Memory Delivery)}
    {outcome : Except Failure Frame}
    (reached : Reached conversation stored (before ++ turn :: after) state)
    (received : turn.event = .received outcome)
    (ends : turn.state.endsWith outcome = true) :
    state.reader.isDone = true ∧ ∃ memory,
      (memory = turn.state.memory ∨ memory = conversation.count turn.state.memory) ∧
        saves (turn :: after) = (conversation.parting memory).toList := by
  induction after using List.reverseRecOn generalizing state with
  | nil =>
      obtain ⟨-, possible⟩ := reached_snoc reached
      rw [received] at possible
      cases (step_received possible).2 with
      | ends memory finished which done effects =>
          refine ⟨done, memory, which, ?_⟩
          simp only [saves, List.flatMap_cons, List.flatMap_nil, effects]
          cases conversation.parting memory <;> rfl
      | breaks goes | passes goes | proceeds content memory requests goes
      | delivers content delivery save memory requests goes | refuses content failure goes =>
          rw [goes] at ends
          cases ends
  | append_singleton after later induction =>
      rw [← List.cons_append, ← List.append_assoc] at reached
      obtain ⟨earlier, possible⟩ := reached_snoc reached
      obtain ⟨done, memory, which, saved⟩ := induction earlier
      obtain ⟨rest, -, -, nothing⟩ := step_of_done done possible
      refine ⟨rest, memory, which, ?_⟩
      rw [← List.cons_append, saves_snoc, nothing, List.append_nil, saved]

/-- After a refusal nothing more is heard, and nothing more is handed over. -/
theorem nothing_after_refusal {before after : List (Turn Memory Delivery)} {failure : Failure}
    (reached : Reached conversation stored (before ++ turn :: after) state)
    (refused : turn.event = .called (.error failure)) :
    state.reader.isDone = true ∧ heard (before ++ turn :: after) = heard before ∧
      handed (before ++ turn :: after) = handed before := by
  induction after using List.reverseRecOn generalizing state with
  | nil =>
      obtain ⟨-, possible⟩ := reached_snoc reached
      rw [refused] at possible
      have texts : heard (before ++ [turn]) = heard before :=
        heard_snoc_of_none (by rw [refused]; rfl)
      obtain ⟨save, memory, requests, -, ends⟩ := step_called possible
      rcases ends with ⟨point, taken, -⟩ | ⟨taken, -⟩ | ⟨reason, -, effects, rfl⟩
      · cases taken
      · cases taken
      · refine ⟨rfl, texts, ?_⟩
        rw [handed_snoc, effects]
        exact List.append_nil _
  | append_singleton after later induction =>
      rw [← List.cons_append, ← List.append_assoc] at reached ⊢
      obtain ⟨earlier, possible⟩ := reached_snoc reached
      obtain ⟨done, texts, calls⟩ := induction earlier
      obtain ⟨rest, none, nothing, -⟩ := step_of_done done possible
      refine ⟨rest, ?_, ?_⟩
      · rw [heard_snoc_of_none none, texts]
      · rw [handed_snoc, nothing, List.append_nil, calls]

/-! What a call and a save say about the step that made them. -/

/-- A step hands over nothing, or what the conversation makes of a text that arrives while the
connection is not stopped. -/
theorem deliveries_of_step (possible : step conversation state event = some (next, effects)) :
    effects.filterMap Effect.delivery? = [] ∨
      ∃ content delivery save memory requests, event = .received (.ok (.text content)) ∧
        state.stopped = false ∧ effects.filterMap Effect.delivery? = [delivery] ∧
        conversation.react (conversation.count state.memory) content =
          .deliver delivery save memory requests := by
  cases event with
  | supervisorStarts | supervisorStops | stopFollowed | closerWakes | closed outcome |
    writerStarts | writerTakes | writerResumes | writerQuits | sent outcome =>
      obtain ⟨-, -, calls, -⟩ := step_of_others rfl possible
      exact .inl calls
  | readerStarts =>
      obtain ⟨-, rfl, -⟩ := step_starts possible
      exact .inl rfl
  | ponged outcome =>
      obtain ⟨-, rfl, -⟩ := step_ponged possible
      exact .inl rfl
  | called outcome =>
      obtain ⟨save, memory, requests, -, ends⟩ := step_called possible
      rcases ends with ⟨point, -, -, rfl, -⟩ | ⟨-, -, rfl, -⟩ | ⟨failure, -, rfl, -⟩ <;>
        exact .inl rfl
  | saved outcome =>
      obtain ⟨rfl, -⟩ := step_saved possible
      exact .inl rfl
  | received outcome =>
      obtain ⟨-, receipt⟩ := step_received possible
      cases receipt with
      | ends memory ends which done saves =>
          rw [saves]
          cases conversation.parting memory <;> exact .inl rfl
      | breaks goes other finished nothing
      | refuses content failure goes text reacts finished nothing
      | proceeds content memory requests goes text reacts reader kept nothing =>
          rw [nothing]
          exact .inl rfl
      | passes goes other reader kept calls => exact .inl calls
      | delivers content delivery save memory requests goes text reacts reader call =>
          subst text
          refine .inr ⟨content, delivery, save, memory, requests, rfl, goes, ?_, reacts⟩
          rw [call]
          rfl

/-- A call is made by a reader that has just received, and it is the only one of its step. -/
theorem step_of_call {delivery : Delivery}
    (possible : step conversation state event = some (next, effects))
    (call : Effect.call delivery ∈ effects) :
    state.reader = .receiving ∧ effects.filterMap Effect.delivery? = [delivery] := by
  have member : delivery ∈ effects.filterMap Effect.delivery? :=
    List.mem_filterMap.mpr ⟨_, call, rfl⟩
  rcases deliveries_of_step possible with
    nothing | ⟨content, only, save, memory, requests, rfl, -, alone, -⟩
  · rw [nothing] at member
    cases member
  · rw [alone, List.mem_singleton] at member
    exact ⟨(step_received possible).1, member ▸ alone⟩

/-- A point is saved after the call that it waited for was taken, or when the conversation
ends in good order. -/
theorem step_of_save {point : Point}
    (possible : step conversation state event = some (next, effects))
    (save : Effect.save point ∈ effects) :
    (event = .called (.ok ()) ∧ effects = [.save point] ∧
        ∃ memory requests, state.reader = .calling (some point) memory requests) ∨
      ∃ outcome memory, event = .received outcome ∧ state.reader = .receiving ∧
        state.endsWith outcome = true ∧ effects.filterMap Effect.delivery? = [] ∧
        (memory = state.memory ∨ memory = conversation.count state.memory) ∧
        conversation.parting memory = some point := by
  have member : point ∈ effects.filterMap Effect.point? :=
    List.mem_filterMap.mpr ⟨_, save, rfl⟩
  cases event with
  | supervisorStarts | supervisorStops | stopFollowed | closerWakes | closed outcome |
    writerStarts | writerTakes | writerResumes | writerQuits | sent outcome =>
      obtain ⟨-, -, -, saved⟩ := step_of_others rfl possible
      rw [saved] at member
      cases member
  | readerStarts =>
      obtain ⟨-, rfl, -⟩ := step_starts possible
      cases save
  | ponged outcome =>
      obtain ⟨-, rfl, -⟩ := step_ponged possible
      cases save
  | saved outcome =>
      obtain ⟨rfl, -⟩ := step_saved possible
      cases save
  | called outcome =>
      obtain ⟨due, memory, requests, calling, ends⟩ := step_called possible
      rcases ends with ⟨waiting, rfl, rfl, rfl, -⟩ | ⟨-, -, rfl, -⟩ | ⟨failure, -, rfl, -⟩
      · simp only [List.mem_singleton, Effect.save.injEq] at save
        subst save
        exact .inl ⟨rfl, rfl, memory, requests, calling⟩
      · cases save
      · cases save
  | received outcome =>
      obtain ⟨receiving, receipt⟩ := step_received possible
      cases receipt with
      | ends memory ends which done saves =>
          refine .inr ⟨outcome, memory, rfl, receiving, ends, ?_, which, ?_⟩
          · rw [saves]
            cases conversation.parting memory <;> rfl
          · rw [saves] at save
            simpa using save
      | breaks goes other finished nothing
      | refuses content failure goes text reacts finished nothing
      | proceeds content memory requests goes text reacts reader kept nothing =>
          rw [nothing] at save
          cases save
      | passes goes other reader kept calls saves =>
          rw [saves] at member
          cases member
      | delivers content delivery due memory requests goes text reacts reader call =>
          rw [call] at save
          simp at save

end

end NodeBridge.Connection
