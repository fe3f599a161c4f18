import NodeBridge.Proofs.Connection.Deliveries
import NodeBridge.Session.ChainFollower

/-!
What the memory of a chain follower says about the run that led to it. It withholds early
blocks exactly as long as no late one was heard, and it keeps the latest frames that it
handed over; a point that waits to be saved is the point of the latest of them that has one.
-/

namespace NodeBridge.ChainFollower

open Connection

/-- The slot of the block that a frame names, if it names one. -/
def frameSlot? (frame : Bytes) : Option Int :=
  match framePoint? frame with
  | some (.structural block) => some block.slot
  | _ => none

/-- Whether a frame names a block that is late enough. -/
def reaches (minSlot : Int) (frame : Bytes) : Bool := (frameSlot? frame).any (minSlot ≤ ·)

/-- Whether a frame is withheld after some others: it names a block before the first wanted
slot, and none of the others reached that slot. -/
def isWithheld (minSlot : Int) (earlier : List Bytes) (frame : Bytes) : Bool :=
  0 < minSlot && (frameSlot? frame).any (· < minSlot) && !earlier.any (reaches minSlot)

/-- Frames in their order, without those that are withheld after the ones before them. -/
def unwithheld (minSlot : Int) (frames : List Bytes) : List Bytes :=
  (frames.zipIdx.filter fun entry =>
    !isWithheld minSlot (frames.take entry.2) entry.1).map Prod.fst

theorem is_withheld_iff (minSlot : Int) (earlier : List Bytes) (frame : Bytes) :
    isWithheld minSlot earlier frame = true ↔
      0 < minSlot ∧
        (∃ block, framePoint? frame = some (.structural block) ∧ block.slot < minSlot) ∧
        ∀ other ∈ earlier, ∀ block, framePoint? other = some (.structural block) →
          ¬minSlot ≤ block.slot := by
  have slot_any (frame : Bytes) (test : Int → Bool) : (frameSlot? frame).any test = true ↔
      ∃ block, framePoint? frame = some (.structural block) ∧ test block.slot = true := by
    unfold frameSlot?
    cases framePoint? frame with
    | none => simp
    | some point => cases point <;> simp
  simp only [isWithheld, reaches, Bool.and_eq_true, decide_eq_true_eq, slot_any,
    Bool.not_eq_true', List.any_eq_false, not_exists, not_and, and_assoc]

theorem unwithheld_snoc (minSlot : Int) (frames : List Bytes) (frame : Bytes) :
    unwithheld minSlot (frames ++ [frame]) =
      unwithheld minSlot frames ++ if isWithheld minSlot frames frame then [] else [frame] := by
  have earlier : frames.zipIdx.filter (fun entry =>
        !isWithheld minSlot ((frames ++ [frame]).take entry.2) entry.1) =
      frames.zipIdx.filter fun entry =>
        !isWithheld minSlot (frames.take entry.2) entry.1 := by
    apply List.filter_congr
    intro entry member
    have bound : entry.2 < frames.length := by
      simpa using List.snd_lt_of_mem_zipIdx member
    rw [List.take_append_of_le_length bound.le]
  unfold unwithheld
  rw [List.zipIdx_append, List.filter_append, List.map_append, earlier]
  congr 1
  simp only [List.zipIdx_singleton, Nat.zero_add, List.filter_cons, List.filter_nil,
    List.take_left']
  cases isWithheld minSlot frames frame <;> rfl

theorem is_early_frame_point (minSlot : Int) (frame : Bytes) :
    isEarly minSlot (framePoint? frame) = (frameSlot? frame).any (· < minSlot) := by
  unfold isEarly frameSlot?
  cases framePoint? frame with
  | none => rfl
  | some point => cases point <;> rfl

theorem is_late_frame_point (minSlot : Int) (frame : Bytes) :
    isLate minSlot (framePoint? frame) = reaches minSlot frame := by
  unfold isLate reaches frameSlot?
  cases framePoint? frame with
  | none => rfl
  | some point => cases point <;> rfl

theorem reaches_of_early {minSlot : Int} {frame : Bytes}
    (early : isEarly minSlot (framePoint? frame) = true) : reaches minSlot frame = false := by
  rw [is_early_frame_point] at early
  unfold reaches
  cases slot : frameSlot? frame with
  | none => rfl
  | some slot =>
      simp_all only [Option.any_some, decide_eq_true_eq, decide_eq_false_iff_not]
      omega

/-- What the memory of a follower says about the run. -/
structure Following (options : Options) (past : List (Turn Memory Bytes))
    (state : State Memory) : Prop where
  delivered : handed past = unwithheld options.minSlot (heard past)
  filtering : state.reader.isDone = false → state.outlook.filtering =
    (decide (0 < options.minSlot) && !(heard past).any (reaches options.minSlot))
  recent : state.reader.isDone = false →
    state.outlook.recent = (handed past).reverse.take recentFrames
  pending : ∀ point memory requests, state.reader = .calling (some point) memory requests →
    firstPoint? (handed past).reverse = some point
  latest : state.reader.isCalling = true → (heard past).getLast? = (handed past).getLast?

section

variable {options : Options} {stored : List Point} {past : List (Turn Memory Bytes)}
  {state next : State Memory} {event : Event} {effects : List (Effect Bytes)}
  {turn : Turn Memory Bytes}

/-- A turn in which nothing is handed over and no text is heard keeps what the memory
says, if the reader goes on with the same memory or not at all. -/
theorem following_of_quiet (following : Following options past state)
    (calls : handed (past ++ [turn]) = handed past)
    (texts : heard (past ++ [turn]) = heard past)
    (goes : next.reader.isDone = false → state.reader.isDone = false ∧
      next.outlook.filtering = state.outlook.filtering ∧
      next.outlook.recent = state.outlook.recent)
    (waits : next.reader.isCalling = true → next.reader = state.reader) :
    Following options (past ++ [turn]) next where
  delivered := by rw [calls, texts, following.delivered]
  filtering listening := by
    obtain ⟨before, filtering, -⟩ := goes listening
    rw [filtering, texts, following.filtering before]
  recent listening := by
    obtain ⟨before, -, recent⟩ := goes listening
    rw [recent, calls, following.recent before]
  pending point memory requests calling := by
    rw [calls]
    rw [waits (by simp [calling, Reader.isCalling])] at calling
    exact following.pending point memory requests calling
  latest calling := by
    rw [calls, texts]
    rw [waits calling] at calling
    exact following.latest calling

theorem first_point_of_take {frames : List Bytes} {count : Nat} {point : Point}
    (first : firstPoint? (frames.take count) = some point) :
    firstPoint? frames = some point := by
  unfold firstPoint? at first ⊢
  rw [← List.take_append_drop count frames, List.findSome?_append, first]
  rfl

theorem following_of_delivery {content : Bytes} {memory : Memory}
    (following : Following options past state) (listening : state.reader.isDone = false)
    (calls : handed (past ++ [turn]) = handed past ++ [content])
    (texts : heard (past ++ [turn]) = heard past ++ [content])
    (kept : isWithheld options.minSlot (heard past) content = false)
    (filtering : memory.filtering =
      (state.outlook.filtering && !reaches options.minSlot content))
    (recent : memory.recent = state.outlook.recent)
    (calling : next.reader = .calling (checkpoint options memory content)
      (remember memory content) []) :
    Following options (past ++ [turn]) next where
  delivered := by rw [calls, texts, unwithheld_snoc, kept, following.delivered]; rfl
  filtering _ := by
    have outlook : next.outlook = remember memory content := by
      simp [State.outlook, calling]
    rw [outlook, texts]
    simp only [remember, filtering, following.filtering listening, List.any_append,
      List.any_cons, List.any_nil, Bool.or_false, Bool.not_or, Bool.and_assoc]
  recent _ := by
    have outlook : next.outlook = remember memory content := by
      simp [State.outlook, calling]
    rw [outlook, calls]
    simp only [remember, recent, following.recent listening, List.reverse_append,
      List.reverse_singleton, List.singleton_append]
    simp [recentFrames, List.take_take]
  pending point after requests waits := by
    rw [calling] at waits
    simp only [Reader.calling.injEq] at waits
    have due := waits.1
    unfold checkpoint at due
    split at due
    · rw [recent, following.recent listening] at due
      rw [calls, List.reverse_append, List.reverse_singleton, List.singleton_append]
      have whole : firstPoint? ((content :: (handed past).reverse).take (recentFrames + 1)) =
          some point := by simpa using due
      exact first_point_of_take whole
    · cases due
  latest _ := by rw [calls, texts, List.getLast?_concat, List.getLast?_concat]

/-- A follower passes over an early block while it withholds, and hands over all else. -/
theorem react_cases (options : Options) (memory : Memory) (content : Bytes) :
    ((memory.filtering && isEarly options.minSlot (framePoint? content)) = true ∧
        react options memory content = .proceed memory []) ∨
      ((memory.filtering && isEarly options.minSlot (framePoint? content)) = false ∧
        ∃ noted : Memory, noted.filtering =
            (memory.filtering && !reaches options.minSlot content) ∧
          noted.recent = memory.recent ∧
          react options memory content = deliver options noted content) := by
  unfold react
  cases filters : memory.filtering with
  | false => exact .inr ⟨rfl, memory, by simp [filters], rfl, rfl⟩
  | true =>
      cases early : isEarly options.minSlot (framePoint? content) with
      | true => exact .inl ⟨rfl, by simp [early]⟩
      | false =>
          refine .inr ⟨rfl, { memory with
            filtering := !isLate options.minSlot (framePoint? content) }, ?_, rfl, by simp [early]⟩
          rw [is_late_frame_point, Bool.true_and]

theorem is_withheld_of_following (following : Following options past state)
    (receiving : state.reader = .receiving) (content : Bytes) :
    isWithheld options.minSlot (heard past) content =
      (state.memory.filtering && isEarly options.minSlot (framePoint? content)) := by
  have filtering := following.filtering (by simp [receiving, Reader.isDone])
  have outlook : state.outlook = state.memory := by simp [State.outlook, receiving]
  rw [outlook] at filtering
  rw [filtering, isWithheld, is_early_frame_point, Bool.and_right_comm]

theorem following_of_withheld {content : Bytes} (following : Following options past state)
    (receiving : state.reader = .receiving)
    (calls : handed (past ++ [turn]) = handed past)
    (texts : heard (past ++ [turn]) = heard past ++ [content])
    (withheld : isWithheld options.minSlot (heard past) content = true)
    (early : isEarly options.minSlot (framePoint? content) = true)
    (goes : next.reader = .receiving)
    (filtering : next.memory.filtering = state.memory.filtering)
    (recent : next.memory.recent = state.memory.recent) :
    Following options (past ++ [turn]) next := by
  have listening : state.reader.isDone = false := by simp [receiving, Reader.isDone]
  have outlook : state.outlook = state.memory := by simp [State.outlook, receiving]
  have later : next.outlook = next.memory := by simp [State.outlook, goes]
  constructor
  · rw [calls, texts, unwithheld_snoc, withheld, following.delivered]
    exact (List.append_nil _).symm
  · intro _
    rw [later, filtering, texts, List.any_append, List.any_cons, reaches_of_early early,
      List.any_nil, Bool.or_false, Bool.or_false, ← following.filtering listening, outlook]
  · intro _
    rw [later, recent, calls, ← following.recent listening, outlook]
  · intro point memory requests calling
    rw [goes] at calling
    cases calling
  · intro calling
    rw [goes] at calling
    cases calling

theorem following_of_receipt {outcome : Except Failure Frame}
    (following : Following options past state) (unended : Unended past)
    (receiving : state.reader = .receiving)
    (receipt : Receipt (conversation options) state outcome next effects) :
    Following options (past ++ [⟨state, .received outcome, effects⟩]) next := by
  have listening : state.reader.isDone = false := by simp [receiving, Reader.isDone]
  have outlook : state.outlook = state.memory := by simp [State.outlook, receiving]
  have texts := heard_snoc unended
    (show (⟨state, .received outcome, effects⟩ : Turn Memory Bytes).event = _ from rfl)
  cases receipt with
  | ends memory ends which done saves =>
      have calls : effects.filterMap Effect.delivery? = [] := by
        rw [saves]
        cases (conversation options).parting memory <;> rfl
      refine following_of_quiet following (by simp [calls]) (by simp [texts, ends]) ?_ ?_
      · intro goes
        rw [done] at goes
        cases goes
      · intro calling
        rw [calm_of_done done] at calling
        cases calling
  | breaks goes other finished nothing =>
      refine following_of_quiet following (by simp [nothing]) (by simp [texts, other]) ?_ ?_
      · intro goes
        simp [finished, Reader.isDone] at goes
      · intro calling
        simp [finished, Reader.isCalling] at calling
  | passes goes other reader kept calls saves =>
      refine following_of_quiet following (by simp [calls]) (by simp [texts, other]) ?_ ?_
      · intro _
        have later : next.outlook = next.memory := by
          rcases reader with same | ponging
          · simp [State.outlook, same]
          · simp [State.outlook, ponging]
        rw [later, outlook, kept]
        exact ⟨listening, rfl, rfl⟩
      · intro calling
        rcases reader with same | ponging
        · simp [same, Reader.isCalling] at calling
        · simp [ponging, Reader.isCalling] at calling
  | refuses content failure goes text reacts finished nothing =>
      rcases react_cases options ((conversation options).count state.memory) content with
        ⟨-, passes⟩ | ⟨-, noted, -, -, delivers⟩
      · cases passes.symm.trans reacts
      · cases delivers.symm.trans reacts
  | proceeds content memory requests goes text reacts reader kept nothing =>
      rcases react_cases options ((conversation options).count state.memory) content with
        ⟨holds, passes⟩ | ⟨-, noted, -, -, delivers⟩
      · have same : Reaction.proceed ((conversation options).count state.memory) [] =
            Reaction.proceed memory requests := passes.symm.trans reacts
        rw [Reaction.proceed.injEq] at same
        have whole : next.memory = (conversation options).count state.memory := by
          rw [kept, same.1]
        subst text
        rw [goes] at texts
        refine following_of_withheld following receiving (by simp [nothing]) texts ?_
          (Bool.and_eq_true_iff.mp holds).2 reader (by rw [whole]; rfl) (by rw [whole]; rfl)
        rw [is_withheld_of_following following receiving]
        exact holds
      · cases delivers.symm.trans reacts
  | delivers content delivery save memory requests goes text reacts reader call =>
      rcases react_cases options ((conversation options).count state.memory) content with
        ⟨-, passes⟩ | ⟨holds, noted, filtering, recent, delivers⟩
      · cases passes.symm.trans reacts
      · have same : deliver options noted content =
            Reaction.deliver delivery save memory requests := delivers.symm.trans reacts
        rw [deliver, Reaction.deliver.injEq] at same
        obtain ⟨rfl, rfl, rfl, rfl⟩ := same
        subst text
        rw [goes] at texts
        refine following_of_delivery following listening (by simp [call, Effect.delivery?]) texts
          ?_ ?_ ?_ reader
        · rw [is_withheld_of_following following receiving]
          exact holds
        · rw [filtering, outlook]
          rfl
        · rw [recent, outlook]
          rfl

theorem following_snoc (following : Following options past state)
    (unended : state.reader.isDone = false → Unended past)
    (possible : step (conversation options) state event = some (next, effects)) :
    Following options (past ++ [⟨state, event, effects⟩]) next := by
  cases event with
  | supervisorStarts | supervisorStops | stopFollowed | closerWakes | closed outcome |
    writerStarts | writerTakes | writerResumes | writerQuits | sent outcome =>
      obtain ⟨reader, memory, calls, -⟩ := step_of_others rfl possible
      refine following_of_quiet following (by simp [calls]) (heard_snoc_of_none rfl) ?_
        fun _ => reader
      intro listening
      have same : next.outlook = state.outlook := by simp only [State.outlook, reader, memory]
      exact ⟨reader ▸ listening, by rw [same], by rw [same]⟩
  | readerStarts =>
      obtain ⟨starting, rfl, rfl⟩ := step_starts possible
      refine following_of_quiet following (by simp) (heard_snoc_of_none rfl) ?_ ?_
      · intro _
        simp [starting, State.outlook, Reader.isDone]
      · intro calling
        simp [Reader.isCalling] at calling
  | received outcome =>
      obtain ⟨receiving, receipt⟩ := step_received possible
      have open_ := unended (by simp [receiving, Reader.isDone])
      exact following_of_receipt following open_ receiving receipt
  | ponged outcome =>
      obtain ⟨ponging, rfl, ends⟩ := step_ponged possible
      refine following_of_quiet following (by simp) (heard_snoc_of_none rfl) ?_ ?_
      · rcases ends with rfl | ⟨failure, rfl⟩
        · intro _
          simp [ponging, State.outlook, Reader.isDone]
        · intro listening
          simp [Reader.isDone] at listening
      · rcases ends with rfl | ⟨failure, rfl⟩ <;> simp [Reader.isCalling]
  | called outcome =>
      obtain ⟨save, memory, requests, calling, ends⟩ := step_called possible
      have calls : handed (past ++ [⟨state, .called outcome, effects⟩]) = handed past := by
        rcases ends with ⟨point, -, -, rfl, -⟩ | ⟨-, -, rfl, -⟩ | ⟨failure, -, rfl, -⟩ <;>
          simp [Effect.delivery?]
      refine following_of_quiet following calls (heard_snoc_of_none rfl) ?_ ?_
      · rcases ends with ⟨point, -, -, -, rfl⟩ | ⟨-, -, -, rfl⟩ | ⟨failure, -, -, rfl⟩
        · intro _
          simp [calling, State.outlook, Reader.isDone]
        · intro _
          simp [calling, State.outlook, Reader.isDone]
        · intro listening
          simp [Reader.isDone] at listening
      · rcases ends with ⟨point, -, -, -, rfl⟩ | ⟨-, -, -, rfl⟩ | ⟨failure, -, -, rfl⟩ <;>
          simp [Reader.isCalling]
  | saved outcome =>
      obtain ⟨rfl, ends⟩ := step_saved possible
      refine following_of_quiet following (by simp) (heard_snoc_of_none rfl) ?_ ?_
      · rcases ends with ⟨memory, requests, saving, rfl | ⟨failure, rfl⟩⟩ | ⟨context, -, finished⟩
        · intro _
          simp [saving, State.outlook, Reader.isDone]
        · intro listening
          simp [Reader.isDone] at listening
        · intro listening
          simp [finished, Reader.isDone] at listening
      · rcases ends with ⟨memory, requests, saving, rfl | ⟨failure, rfl⟩⟩ | ⟨context, -, finished⟩
        · simp [Reader.isCalling]
        · simp [Reader.isCalling]
        · simp [finished, Reader.isCalling]

theorem following_of_reached
    (reached : Reached (conversation options) stored past state) :
    Following options past state := by
  induction reached with
  | start =>
      refine ⟨rfl, ?_, ?_, ?_, ?_⟩
      · intro _
        simp [State.outlook, State.start, conversation, heard, receipts]
      · intro _
        rfl
      · intro point memory requests calling
        cases calling
      · intro calling
        cases calling
  | step reached possible following =>
      exact following_snoc following (unended_of_reached reached) possible

end

/-! A frame that names a point. -/

def stepBack : Bytes :=
  Text.encodeUtf8 ("\x7b\"method\":\"nextBlock\",\"result\":" ++
    "\x7b\"direction\":\"backward\",\"point\":\x7b\"slot\":5\x7d\x7d\x7d")

theorem parse_step_back : Decode.parseBytes stepBack =
    .ok (.object [("method", .text "nextBlock"), ("result", .object
      [("direction", .text "backward"), ("point", .object [("slot", .int 5)])])]) := by
  decide +kernel

theorem frame_point_step_back :
    framePoint? stepBack = some (.structural { id := "", slot := 5, height := none }) := by
  have filled : stepBack.isEmpty = false := by decide +kernel
  unfold framePoint? Adaptive.decodeResponse
  rw [parse_step_back, filled]
  rfl

end NodeBridge.ChainFollower
