import NodeBridge.Proofs.Connection.Conservation
import NodeBridge.Proofs.Follower.Checkpoint

/-!
How often a chain follower saves. Frames of every kind are counted, but the count is looked at
only after a text was taken. So a point is due whenever the frames that arrived are a multiple of
the interval at that moment: as long as nothing but texts arrives that is every so many texts,
and with other frames in between it may be never.
-/

namespace NodeBridge.ChainFollower

open Connection

/-- The point that is saved once the latest text that was handed over is taken. -/
def duePoint? (options : Options) (past : List (Turn Memory Bytes)) : Option Point :=
  if (arrivals past).length % options.saveInterval = 0 then
    firstPoint? ((handed past).reverse.take (recentFrames + 1))
  else none

/-- A point is looked for after one of the texts that are taken in some turns after others. -/
def Attempted (options : Options) (before turns : List (Turn Memory Bytes)) : Prop :=
  ∃ earlier turn later, turns = earlier ++ turn :: later ∧ turn.event = .called (.ok ()) ∧
    (arrivals (before ++ earlier)).length % options.saveInterval = 0

/-- What a follower counts: all frames that arrived, and the point that is due while a text is
being taken. -/
structure Counting (options : Options) (past : List (Turn Memory Bytes))
    (state : State Memory) : Prop where
  received : state.reader.isDone = false → state.outlook.received = (arrivals past).length
  due : ∀ save memory requests, state.reader = .calling save memory requests →
    save = duePoint? options past

section

variable {options : Options} {stored : List Point}
  {past before middle : List (Turn Memory Bytes)} {state next : State Memory} {event : Event}
  {effects : List (Effect Bytes)} {turn : Turn Memory Bytes}

theorem proceed_of_react {memory after : Memory} {content : Bytes} {requests : List Request}
    (proceeds : react options memory content = .proceed after requests) : after = memory := by
  unfold react deliver at proceeds
  grind

theorem deliver_of_react {memory after : Memory} {content delivery : Bytes}
    {save : Option Point} {requests : List Request}
    (delivers : react options memory content = .deliver delivery save after requests) :
    delivery = content ∧ save = checkpoint options memory content ∧
      after.received = memory.received := by
  unfold react deliver at delivers
  grind [remember, checkpoint]

theorem counting_of_quiet (counting : Counting options past state)
    (nothing : turn.arrival? = none) (calls : turn.effects.filterMap Effect.delivery? = [])
    (goes : next.reader.isDone = false → state.reader.isDone = false ∧
      next.outlook.received = state.outlook.received)
    (waits : next.reader.isCalling = true → next.reader = state.reader) :
    Counting options (past ++ [turn]) next where
  received listening := by
    obtain ⟨before, same⟩ := goes listening
    rw [same, counting.received before, arrivals_snoc, nothing, Option.toList_none,
      List.append_nil]
  due save memory requests calling := by
    have same := waits (by simp [calling, Reader.isCalling])
    rw [duePoint?, arrivals_snoc, nothing, Option.toList_none, List.append_nil, handed_snoc,
      calls, List.append_nil]
    exact counting.due save memory requests (same.symm.trans calling)

theorem counting_of_done (done : state.reader.isDone = true) : Counting options past state where
  received listening := by
    rw [done] at listening
    cases listening
  due save memory requests calling := by
    rw [calling] at done
    cases done

/-- A failure of the line ends the reader. -/
theorem done_of_broken {failure : Failure}
    (possible : step (conversation options) state (.received (.error failure)) =
      some (next, effects)) : next.reader.isDone = true := by
  simp only [step] at possible
  split at possible
  · have received := Option.some.inj possible
    unfold receive part at received
    grind [State.failReader, State.endReader, Reader.isDone]
  · cases possible

theorem counting_of_frame {frame : Frame} (counting : Counting options past state)
    (following : Following options past state) (receiving : state.reader = .receiving)
    (receipt : Receipt (conversation options) state (.ok frame) next effects) :
    Counting options (past ++ [⟨state, .received (.ok frame), effects⟩]) next := by
  have outlook : state.outlook = state.memory := by simp [State.outlook, receiving]
  have listening : state.reader.isDone = false := by simp [receiving, Reader.isDone]
  have before := counting.received listening
  have recent := following.recent listening
  rw [outlook] at before recent
  have one (goes : state.endsWith (.ok frame) = false) :
      (arrivals (past ++ [⟨state, .received (.ok frame), effects⟩])).length =
        state.memory.received + 1 := by
    have running : state.stopped = false := by cases frame <;> simp_all [State.endsWith]
    rw [arrivals_snoc, List.length_append, before]
    simp [Turn.arrival?, running]
  cases receipt with
  | ends memory ends which done => exact counting_of_done done
  | breaks goes other finished => exact counting_of_done (by rw [finished]; rfl)
  | refuses content failure goes text reacts finished =>
      exact counting_of_done (by rw [finished]; rfl)
  | passes goes other reader kept =>
      constructor
      · intro _
        have later : next.outlook = next.memory := by
          rcases reader with same | ponging
          · simp [State.outlook, same]
          · simp [State.outlook, ponging]
        rw [later, kept, one goes]
        rfl
      · intro save memory requests calling
        rcases reader with same | ponging
        · cases same.symm.trans calling
        · cases ponging.symm.trans calling
  | proceeds content memory requests goes text reacts reader kept =>
      constructor
      · intro _
        have later : next.outlook = next.memory := by simp [State.outlook, reader]
        rw [later, kept, proceed_of_react reacts, one goes]
        rfl
      · intro save memory requests calling
        cases reader.symm.trans calling
  | delivers content delivery save memory requests goes text reacts reader call =>
      obtain ⟨rfl, due, count⟩ := deliver_of_react reacts
      constructor
      · intro _
        have later : next.outlook = memory := by simp [State.outlook, reader]
        rw [later, count, one goes]
        rfl
      · intro other after more calling
        rw [reader, Reader.calling.injEq] at calling
        rw [← calling.1, due, duePoint?, one goes, handed_snoc, call, checkpoint]
        have window : delivery :: state.memory.recent =
            (handed past ++ [delivery]).reverse.take (recentFrames + 1) := by
          rw [List.reverse_append, List.reverse_singleton, List.singleton_append,
            List.take_succ_cons, recent]
        exact congrArg (fun frames => if (state.memory.received + 1) % options.saveInterval = 0
          then firstPoint? frames else none) window

theorem counting_snoc (counting : Counting options past state)
    (following : Following options past state)
    (possible : step (conversation options) state event = some (next, effects)) :
    Counting options (past ++ [⟨state, event, effects⟩]) next := by
  cases event with
  | supervisorStarts | supervisorStops | stopFollowed | closerWakes | closed outcome |
    writerStarts | writerTakes | writerResumes | writerQuits | sent outcome =>
      obtain ⟨reader, memory, calls, -⟩ := step_of_others rfl possible
      refine counting_of_quiet counting rfl calls ?_ fun _ => reader
      intro listening
      have same : next.outlook = state.outlook := by simp only [State.outlook, reader, memory]
      exact ⟨reader ▸ listening, by rw [same]⟩
  | readerStarts =>
      obtain ⟨starting, rfl, rfl⟩ := step_starts possible
      refine counting_of_quiet counting rfl rfl ?_ ?_
      · intro _
        simp [starting, State.outlook, Reader.isDone]
      · intro calling
        simp [Reader.isCalling] at calling
  | received outcome =>
      cases outcome with
      | error failure => exact counting_of_done (done_of_broken possible)
      | ok frame =>
          obtain ⟨receiving, receipt⟩ := step_received possible
          exact counting_of_frame counting following receiving receipt
  | ponged outcome =>
      obtain ⟨ponging, rfl, rfl | ⟨failure, rfl⟩⟩ := step_ponged possible
      · refine counting_of_quiet counting rfl rfl ?_ (by simp [Reader.isCalling])
        intro _
        simp [ponging, State.outlook, Reader.isDone]
      · exact counting_of_done rfl
  | called outcome =>
      obtain ⟨save, memory, requests, calling, ends⟩ := step_called possible
      rcases ends with ⟨point, -, -, rfl, rfl⟩ | ⟨-, -, rfl, rfl⟩ | ⟨failure, -, rfl, rfl⟩
      · refine counting_of_quiet counting rfl rfl ?_ (by simp [Reader.isCalling])
        intro _
        simp [calling, State.outlook, Reader.isDone]
      · refine counting_of_quiet counting rfl rfl ?_ (by simp [Reader.isCalling])
        intro _
        simp [calling, State.outlook, Reader.isDone]
      · exact counting_of_done rfl
  | saved outcome =>
      obtain ⟨rfl, ends⟩ := step_saved possible
      rcases ends with ⟨memory, requests, saving, rfl | ⟨failure, rfl⟩⟩ | ⟨context, -, finished⟩
      · refine counting_of_quiet counting rfl rfl ?_ (by simp [Reader.isCalling])
        intro _
        simp [saving, State.outlook, Reader.isDone]
      · exact counting_of_done rfl
      · exact counting_of_done (by rw [finished]; rfl)

theorem counting_of_reached (reached : Reached (conversation options) stored past state) :
    Counting options past state := by
  induction reached with
  | start => exact ⟨fun _ => rfl, nofun⟩
  | step reached possible counting =>
      exact counting_snoc counting (following_of_reached reached) possible

/-- What is done once a text was taken. -/
theorem saves_of_taken
    (reached : Reached (conversation options) stored (before ++ [turn]) state)
    (answer : turn.event = .called (.ok ())) :
    turn.effects = (duePoint? options before).toList.map .save := by
  obtain ⟨earlier, possible⟩ := reached_snoc reached
  rw [answer] at possible
  obtain ⟨save, memory, requests, calling, ends⟩ := step_called possible
  rw [← (counting_of_reached earlier).due save memory requests calling]
  rcases ends with ⟨point, -, rfl, effects, -⟩ | ⟨-, rfl, effects, -⟩ | ⟨failure, other, -⟩
  · exact effects
  · exact effects
  · cases other

/-- A turn with which the latest text is taken, or one that leaves what was taken alone. -/
theorem taken_snoc_cases
    (reached : Reached (conversation options) stored (before ++ [turn]) state) :
    turn.event = .called (.ok ()) ∧
        (taken (before ++ [turn])).length = (taken before).length + 1 ∨
      taken (before ++ [turn]) = taken before := by
  obtain ⟨earlier, possible⟩ := reached_snoc reached
  have standing := standing_of_reached earlier
  cases event : turn.event with
  | called outcome =>
      rw [event] at possible
      obtain ⟨save, memory, requests, calling, ends⟩ := step_called possible
      have pending : Pending before := by simpa only [Standing, calling] using standing
      obtain ⟨delivery, open_, balanced⟩ := pending
      have calls : turn.effects.filterMap Effect.delivery? = [] := by
        rcases ends with ⟨point, -, -, effects, -⟩ | ⟨-, -, effects, -⟩ |
            ⟨failure, -, effects, -⟩ <;>
          rw [effects] <;> rfl
      have grown := taken_snoc_of_answer open_ balanced calls
        (show turn.event.answer? = some outcome by rw [event]; rfl)
      cases outcome with
      | ok _ => exact .inl ⟨rfl, by rw [grown, List.length_append]; rfl⟩
      | error failure => exact .inr (grown.trans (List.append_nil _))
  | _ =>
      refine .inr (taken_snoc_of_no_answer ?_ (by rw [event]; rfl))
      unfold Standing at standing
      split at standing
      · exact standing.balanced
      · exact standing.elim Settled.balanced Refused.balanced
      · exact standing.balanced

/-! As long as nothing but texts arrives. -/

theorem unwithheld_of_open {minSlot : Int} (open_ : minSlot ≤ 0) (frames : List Bytes) :
    unwithheld minSlot frames = frames := by
  induction frames using List.reverseRecOn with
  | nil => rfl
  | append_singleton frames frame induction =>
      have kept : isWithheld minSlot frames frame = false := by
        simp [isWithheld, Int.not_lt.mpr open_]
      rw [unwithheld_snoc, induction, kept]
      rfl

/-- All texts that arrive are handed over, if none is withheld. -/
theorem handed_of_open (open_ : options.minSlot ≤ 0)
    (reached : Reached (conversation options) stored past state) :
    handed past = (arrivals past).filterMap Frame.text? := by
  rw [(following_of_reached reached).delivered, unwithheld_of_open open_,
    heard_of_reached reached]

/-- While a text is being taken, all that were handed over before it were taken. -/
theorem handed_of_answer {outcome : Except Failure Unit}
    (reached : Reached (conversation options) stored (before ++ [turn]) state)
    (answer : turn.event = .called outcome) :
    (handed before).length = (taken before).length + 1 := by
  obtain ⟨earlier, possible⟩ := reached_snoc reached
  rw [answer] at possible
  obtain ⟨save, memory, requests, calling, -⟩ := step_called possible
  have pending : Pending before := by
    simpa only [Standing, calling] using standing_of_reached earlier
  obtain ⟨delivery, open_, -⟩ := pending
  rw [open_, List.length_append]
  rfl

/-- Between two lengths of what was taken there is a turn with which each further one was. -/
theorem turn_of_taken {count : Nat}
    (reached : Reached (conversation options) stored (before ++ middle) state)
    (low : (taken before).length ≤ count)
    (high : count < (taken (before ++ middle)).length) :
    ∃ earlier turn later, middle = earlier ++ turn :: later ∧ turn.event = .called (.ok ()) ∧
      (taken (before ++ earlier)).length = count := by
  induction middle using List.reverseRecOn generalizing state with
  | nil =>
      rw [List.append_nil] at high
      omega
  | append_singleton middle turn induction =>
      rw [← List.append_assoc] at reached high
      by_cases earlier : count < (taken (before ++ middle)).length
      · obtain ⟨first, found, later, rfl, answer, same⟩ :=
          induction (reached_snoc reached).1 earlier
        exact ⟨first, found, later ++ [turn], by simp, answer, same⟩
      · rcases taken_snoc_cases reached with ⟨answer, one⟩ | same
        · exact ⟨middle, turn, [], rfl, answer, by omega⟩
        · rw [same] at high
          exact absurd high earlier

theorem multiple_ahead (start : Nat) {interval : Nat} (positive : 0 < interval) :
    ∃ steps < interval, (start + steps + 1) % interval = 0 := by
  have small := Nat.mod_lt start positive
  have whole := Nat.mod_add_div start interval
  refine ⟨interval - 1 - start % interval, by omega, ?_⟩
  have next : start + (interval - 1 - start % interval) + 1 =
      interval * (start / interval + 1) := by
    rw [Nat.mul_add, Nat.mul_one]
    omega
  rw [next, Nat.mul_mod_right]

/-- As long as nothing but texts arrives and none is withheld, as many texts as the interval says
are never taken without a point being looked for after one of them. -/
theorem attempted_of_texts (open_ : options.minSlot ≤ 0) (positive : 0 < options.saveInterval)
    (reached : Reached (conversation options) stored (before ++ middle) state)
    (texts : ∀ frame ∈ arrivals middle, ∃ content, frame = .text content)
    (many : (taken before).length + options.saveInterval ≤
      (taken (before ++ middle)).length) : Attempted options before middle := by
  obtain ⟨start, first⟩ := reached_of_append reached
  have handedFirst := handed_of_open open_ first
  have fewer : (handed before).length ≤ (arrivals before).length := by
    rw [handedFirst]
    exact List.length_filterMap_le _ _
  -- Of the texts that are taken next, the one to look at is found by the count that it will have.
  obtain ⟨steps, within, due⟩ := multiple_ahead
    ((arrivals before).length - (handed before).length + (taken before).length) positive
  have low : (taken before).length ≤ (taken before).length + steps := Nat.le_add_right _ _
  obtain ⟨earlier, turn, later, rfl, answer, count⟩ := turn_of_taken reached low (by omega)
  refine ⟨earlier, turn, later, rfl, answer, ?_⟩
  have whole : before ++ (earlier ++ turn :: later) =
      before ++ earlier ++ [turn] ++ later := by simp
  rw [whole] at reached
  obtain ⟨next, taking⟩ := reached_of_append reached
  have together := handed_of_answer taking answer
  have arrived : arrivals (before ++ earlier) = arrivals before ++ arrivals earlier :=
    List.filterMap_append
  have same : ((arrivals earlier).filterMap Frame.text?).length = (arrivals earlier).length := by
    rw [List.length_filterMap_eq_countP, List.countP_eq_length]
    intro frame member
    have there : frame ∈ arrivals (earlier ++ turn :: later) := by
      rw [arrivals, List.filterMap_append]
      exact List.mem_append_left _ member
    obtain ⟨content, rfl⟩ := texts frame there
    rfl
  rw [handed_of_open open_ (reached_snoc taking).1, arrived, List.filterMap_append,
    ← handedFirst, List.length_append, same, count] at together
  rw [arrived, List.length_append, ← due]
  congr 1
  omega

/-! Runs in which other frames come between the texts. -/

/-- Binary frames are passed over, and all that changes is the count. -/
theorem reached_passing (count : Nat)
    (reached : Reached (conversation options) stored past state)
    (receiving : state.reader = .receiving) (running : state.stopped = false) :
    ∃ more next, Reached (conversation options) stored (past ++ more) next ∧
      next.reader = .receiving ∧ next.stopped = false ∧
      (arrivals (past ++ more)).length = (arrivals past).length + count ∧
      handed (past ++ more) = handed past ∧ saves (past ++ more) = saves past ∧
      ∀ turn ∈ more, turn.event ≠ .called (.ok ()) := by
  induction count with
  | zero =>
      refine ⟨[], state, by simpa using reached, receiving, running, ?_⟩
      simp
  | succ count induction =>
      obtain ⟨more, next, passing, listening, goes, arrived, calls, saved, quiet⟩ := induction
      have passes := passing.step (step_binary [] listening goes)
      rw [List.append_assoc] at passes
      refine ⟨_, _, passes, listening, goes, ?_, ?_, ?_, ?_⟩
      · rw [← List.append_assoc, arrivals_snoc, List.length_append, arrived]
        simp [Turn.arrival?, goes, Nat.add_assoc]
      · rw [← List.append_assoc, handed_snoc, calls]
        exact List.append_nil _
      · rw [← List.append_assoc, saves_snoc, saved]
        exact List.append_nil _
      · intro turn member
        rcases List.mem_append.mp member with there | last
        · exact quiet turn there
        · rw [List.mem_singleton.mp last]
          intro same
          cases same

theorem attempted_append (attempted : Attempted options before (middle ++ past)) :
    Attempted options before middle ∨ Attempted options (before ++ middle) past := by
  obtain ⟨earlier, turn, later, split, answer, due⟩ := attempted
  rcases List.append_eq_append_iff.mp split with ⟨rest, rfl, same⟩ | ⟨rest, rfl, same⟩
  · rw [← List.append_assoc] at due
    exact .inr ⟨rest, turn, later, same, answer, due⟩
  · cases rest with
    | nil => exact .inr ⟨[], turn, later, same.symm, answer, by simpa using due⟩
    | cons first rest =>
        obtain ⟨rfl, -⟩ := List.cons.inj same
        exact .inl ⟨earlier, turn, rest, rfl, answer, due⟩

theorem not_attempted_of_quiet (quiet : ∀ turn ∈ middle, turn.event ≠ .called (.ok ())) :
    ¬Attempted options before middle := by
  rintro ⟨earlier, turn, later, rfl, answer, -⟩
  exact quiet turn (List.mem_append_right _ List.mem_cons_self) answer

/-- A text that nothing withholds is handed over. -/
theorem reached_handing_over (open_ : options.minSlot ≤ 0) (content : Bytes)
    (reached : Reached (conversation options) stored past state)
    (receiving : state.reader = .receiving) (running : state.stopped = false) :
    ∃ next memory, Reached (conversation options) stored
        (past ++ [⟨state, .received (.ok (.text content)), [.call content]⟩]) next ∧
      next.stopped = false ∧ next.reader = .calling (duePoint? options
        (past ++ [⟨state, .received (.ok (.text content)), [.call content]⟩])) memory [] := by
  have filtering : state.memory.filtering = false := by
    have holds := (following_of_reached reached).filtering (by simp [receiving, Reader.isDone])
    have outlook : state.outlook = state.memory := by simp [State.outlook, receiving]
    rw [outlook, decide_eq_false (Int.not_lt.mpr open_), Bool.false_and] at holds
    exact holds
  have reacts : (conversation options).react ((conversation options).count state.memory) content =
      deliver options ((conversation options).count state.memory) content := by
    simp [conversation, react, filtering]
  have hands := reached.step (step_text_of_deliver receiving running reacts)
  have due := (counting_of_reached hands).due _ _ _ rfl
  exact ⟨_, _, hands, running, congrArg (fun save => Reader.calling save _ []) due⟩

/-- A text that was handed over is taken. -/
theorem reached_answer {save : Option Point} {memory : Memory} {requests : List Request}
    (reached : Reached (conversation options) stored past state)
    (calling : state.reader = .calling save memory requests) :
    ∃ next, Reached (conversation options) stored
        (past ++ [⟨state, .called (.ok ()), save.toList.map .save⟩]) next ∧
      Settled (past ++ [⟨state, .called (.ok ()), save.toList.map .save⟩]) ∧
      (save = none → next = state.listen (conversation options) memory requests) := by
  have pending : Pending past := by
    simpa only [Standing, calling] using standing_of_reached reached
  cases save with
  | none =>
      have takes := reached.step (show step (conversation options) state (.called (.ok ())) =
        some (state.listen (conversation options) memory requests, []) by simp [step, calling])
      exact ⟨_, takes, settled_snoc_of_taken pending rfl rfl, fun _ => rfl⟩
  | some point =>
      have takes := reached.step (show step (conversation options) state (.called (.ok ())) =
        some ({ state with reader := .saving memory requests }, [.save point]) by
          simp [step, calling])
      exact ⟨_, takes, settled_snoc_of_taken pending rfl rfl, fun other => (by cases other)⟩

/-- A text after which the count is no multiple of the interval is taken, and no point is looked
for. -/
theorem reached_taking (open_ : options.minSlot ≤ 0) (content : Bytes)
    (reached : Reached (conversation options) stored past state)
    (receiving : state.reader = .receiving) (running : state.stopped = false)
    (off : ((arrivals past).length + 1) % options.saveInterval ≠ 0) :
    ∃ more next, Reached (conversation options) stored (past ++ more) next ∧
      next.reader = .receiving ∧ next.stopped = false ∧
      arrivals (past ++ more) = arrivals past ++ [.text content] ∧
      handed (past ++ more) = handed past ++ [content] ∧ saves (past ++ more) = saves past ∧
      ¬Attempted options past more := by
  obtain ⟨called, memory, hands, goes, calling⟩ :=
    reached_handing_over open_ content reached receiving running
  have arrived : arrivals (past ++ [⟨state, .received (.ok (.text content)), [.call content]⟩]) =
      arrivals past ++ [.text content] := by
    simp [Turn.arrival?, running]
  have untried : (arrivals (past ++ [⟨state, .received (.ok (.text content)),
      [.call content]⟩])).length % options.saveInterval ≠ 0 := by
    rw [arrived, List.length_append]
    exact off
  rw [duePoint?, if_neg untried] at calling
  obtain ⟨next, takes, -, listens⟩ := reached_answer hands calling
  rw [listens rfl, List.append_assoc] at takes
  refine ⟨_, _, takes, rfl, goes, ?_, ?_, ?_, ?_⟩
  · rw [← List.append_assoc, arrivals_snoc, arrived]
    exact List.append_nil _
  · rw [← List.append_assoc, handed_snoc, handed_snoc]
    exact List.append_nil _
  · rw [← List.append_assoc, saves_snoc, saves_snoc]
    exact (List.append_nil _).trans (List.append_nil _)
  · intro attempted
    rcases attempted_append attempted with first | second
    · exact not_attempted_of_quiet (by simp) first
    · obtain ⟨before, turn, after, split, -, due⟩ := second
      cases before with
      | nil => exact untried (by simpa using due)
      | cons first rest => simp at split

/-- After a text that is the first frame after a multiple of the interval, so many other frames
may follow that the next text is such a frame again. -/
theorem reached_missing (open_ : options.minSlot ≤ 0) (wide : 2 ≤ options.saveInterval)
    (content : Bytes) (reached : Reached (conversation options) stored past state)
    (receiving : state.reader = .receiving) (running : state.stopped = false)
    (whole : (arrivals past).length % options.saveInterval = 0) :
    ∃ more next, Reached (conversation options) stored (past ++ more) next ∧
      next.reader = .receiving ∧ next.stopped = false ∧
      (arrivals (past ++ more)).length % options.saveInterval = 0 ∧
      handed (past ++ more) = handed past ++ [content] ∧ saves (past ++ more) = saves past ∧
      ¬Attempted options past more := by
  have off : ((arrivals past).length + 1) % options.saveInterval ≠ 0 := by
    rw [Nat.add_mod, whole, Nat.zero_add, Nat.mod_mod, Nat.mod_eq_of_lt wide]
    exact Nat.one_ne_zero
  obtain ⟨first, middle, takes, listening, goes, one, calls, unsaved, untried⟩ :=
    reached_taking open_ content reached receiving running off
  obtain ⟨more, next, passing, listens, still, arrived, same, saved, quiet⟩ :=
    reached_passing (options.saveInterval - 1) takes listening goes
  refine ⟨first ++ more, next, by rw [← List.append_assoc]; exact passing, listens, still, ?_, ?_,
    ?_, ?_⟩
  · have count : 1 + (options.saveInterval - 1) = options.saveInterval := by omega
    rw [← List.append_assoc, arrived, one, List.length_append, List.length_singleton,
      Nat.add_assoc, count, Nat.add_mod_right, whole]
  · rw [← List.append_assoc, same, calls]
  · rw [← List.append_assoc, saved, unsaved]
  · intro attempted
    rcases attempted_append attempted with earlier | later
    · exact untried earlier
    · exact not_attempted_of_quiet quiet later

/-- A run in which the reader has begun to listen. -/
theorem reached_listening (options : Options) (stored : List Point) :
    ∃ past state, Reached (conversation options) stored past state ∧
      state.reader = .receiving ∧ state.stopped = false ∧ arrivals past = [] ∧
      handed past = [] ∧ saves past = [] ∧ ∀ turn ∈ past, turn.event ≠ .called (.ok ()) := by
  have begins : Reached (conversation options) stored [] _ := .start
  have listens := begins.step (show step _ _ .readerStarts = some (_, _) from rfl)
  refine ⟨_, _, listens, rfl, rfl, rfl, rfl, rfl, ?_⟩
  intro turn member
  rw [List.mem_singleton.mp member]
  intro same
  cases same

theorem reached_unattempted (open_ : options.minSlot ≤ 0) (wide : 2 ≤ options.saveInterval)
    (stored : List Point) (contents : List Bytes) :
    ∃ past state, Reached (conversation options) stored past state ∧ state.reader = .receiving ∧
      state.stopped = false ∧ (arrivals past).length % options.saveInterval = 0 ∧
      handed past = contents ∧ saves past = [] ∧ ¬Attempted options [] past := by
  induction contents using List.reverseRecOn with
  | nil =>
      obtain ⟨past, state, reached, receiving, running, arrived, calls, unsaved, quiet⟩ :=
        reached_listening options stored
      exact ⟨past, state, reached, receiving, running, by rw [arrived]; exact Nat.zero_mod _,
        calls, unsaved, not_attempted_of_quiet quiet⟩
  | append_singleton contents content induction =>
      obtain ⟨past, state, reached, receiving, running, whole, calls, unsaved, untried⟩ := induction
      obtain ⟨more, next, missing, listening, goes, again, more_calls, saved, missed⟩ :=
        reached_missing open_ wide content reached receiving running whole
      refine ⟨_, next, missing, listening, goes, again, by rw [more_calls, calls],
        by rw [saved, unsaved], ?_⟩
      intro attempted
      rcases attempted_append attempted with before | later
      · exact untried before
      · exact missed later

end

/-- When a chain follower saves while it listens. Whether a point is looked for once a text was
taken goes by the number of frames that arrived, of whatever kind. As long as nothing but texts
arrives, a point is looked for once in so many texts as the interval says; but unless the interval
is one, other frames among the texts can keep any number of texts from being followed by a point
that is looked for or saved. -/
theorem checkpoints_by_arrivals (options : Options) (stored : List Point) :
    (∀ before turn state, Reached (conversation options) stored (before ++ [turn]) state →
      turn.event = .called (.ok ()) →
        turn.effects = (if (arrivals before).length % options.saveInterval = 0 then
          firstPoint? ((handed before).reverse.take (recentFrames + 1)) else none).toList.map
            .save) ∧
      (options.minSlot ≤ 0 → 0 < options.saveInterval → ∀ before middle state,
        Reached (conversation options) stored (before ++ middle) state →
          (∀ frame ∈ arrivals middle, ∃ content, frame = .text content) →
            (taken before).length + options.saveInterval ≤ (taken (before ++ middle)).length →
              Attempted options before middle) ∧
      (options.minSlot ≤ 0 → 2 ≤ options.saveInterval → ∀ contents, ∃ past state,
        Reached (conversation options) stored past state ∧ taken past = contents ∧
          saves past = [] ∧ ¬Attempted options [] past) := by
  refine ⟨fun _ _ _ reached answer => saves_of_taken reached answer,
    fun open_ positive _ _ _ reached => attempted_of_texts open_ positive reached, ?_⟩
  intro open_ wide contents
  obtain ⟨past, state, reached, receiving, -, -, calls, unsaved, untried⟩ :=
    reached_unattempted open_ wide stored contents
  exact ⟨past, state, reached, (settled_of_receiving reached receiving).1 ▸ calls, unsaved, untried⟩

/-- Of two texts the second is the one after which a point is looked for and saved. -/
theorem checkpoints_by_arrivals_of_step_backs :
    ∃ past state, Reached (conversation ⟨1, 2, 0, []⟩) [] past state ∧
      taken past = [stepBack, stepBack] ∧ Attempted ⟨1, 2, 0, []⟩ [] past ∧
      saves past = [.structural { id := "", slot := 5, height := none }] := by
  have open_ : (⟨1, 2, 0, []⟩ : Options).minSlot ≤ 0 := by decide
  obtain ⟨start, state, listening, receiving, running, silent, nothing, unsaved, -⟩ :=
    reached_listening ⟨1, 2, 0, []⟩ []
  obtain ⟨more, later, first, again, goes, arrived, calls, still, -⟩ :=
    reached_taking open_ stepBack listening receiving running (by rw [silent]; decide)
  obtain ⟨called, memory, second, -, calling⟩ :=
    reached_handing_over open_ stepBack first again goes
  have texts : arrivals (start ++ more ++ [⟨later, .received (.ok (.text stepBack)),
      [.call stepBack]⟩]) = [.text stepBack, .text stepBack] := by
    rw [arrivals_snoc, arrived, silent]
    simp [Turn.arrival?, goes]
  have handedBoth : handed (start ++ more ++ [⟨later, .received (.ok (.text stepBack)),
      [.call stepBack]⟩]) = [stepBack, stepBack] := by
    rw [handed_snoc, calls, nothing]
    rfl
  have due : duePoint? ⟨1, 2, 0, []⟩ (start ++ more ++ [⟨later, .received (.ok (.text stepBack)),
      [.call stepBack]⟩]) = some (.structural { id := "", slot := 5, height := none }) := by
    rw [duePoint?, texts, handedBoth]
    simp [firstPoint?, recentFrames, frame_point_step_back]
  rw [due] at calling
  obtain ⟨next, takes, settled, -⟩ := reached_answer second calling
  have all := settled.1
  rw [handed_snoc, handedBoth] at all
  refine ⟨_, next, takes, all.symm, ?_, ?_⟩
  · refine (checkpoints_by_arrivals ⟨1, 2, 0, []⟩ []).2.1 open_ (by decide) [] _ next takes ?_ ?_
    · rw [arrivals_snoc, texts]
      simp [Turn.arrival?]
    · rw [List.nil_append, ← all]
      exact le_rfl
  · rw [saves_snoc, saves_snoc, still, unsaved]
    rfl

/-- Where every second frame is not a text, two texts with points are taken and none is saved. -/
theorem unsaved_step_backs :
    ∃ past state, Reached (conversation ⟨1, 2, 0, []⟩) [] past state ∧
      taken past = [stepBack, stepBack] ∧ (framePoint? stepBack).isSome = true ∧
      saves past = [] ∧ ¬Attempted ⟨1, 2, 0, []⟩ [] past := by
  have open_ : (⟨1, 2, 0, []⟩ : Options).minSlot ≤ 0 := by decide
  have wide : 2 ≤ (⟨1, 2, 0, []⟩ : Options).saveInterval := by decide
  obtain ⟨past, state, reached, receiving, -, -, calls, unsaved, untried⟩ :=
    reached_unattempted open_ wide [] [stepBack, stepBack]
  exact ⟨past, state, reached, (settled_of_receiving reached receiving).1 ▸ calls,
    by rw [frame_point_step_back]; rfl, unsaved, untried⟩

end NodeBridge.ChainFollower
