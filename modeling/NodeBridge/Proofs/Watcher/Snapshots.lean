import NodeBridge.Proofs.Watcher.Reply

/-!
The snapshots that a mempool watcher hands over. A reply does not say which request it answers,
and the watcher does not check it. If the node answers no request twice and each in kind, the
requests that were answered are those that were made, in the same order: a snapshot is
acquired, its transactions are listed, and it is drained before the next one is acquired. So
the snapshots that are handed over are exactly those that the answers make up.
-/

namespace NodeBridge.MempoolWatcher

open Connection

namespace Snapshot

/-- The answers by which a snapshot is known before it is drained. -/
def opened (snapshot : Snapshot) : List Answer :=
  .acquired snapshot.slot :: snapshot.transactions.map .listed

/-- The answers that make up a whole snapshot. -/
def answers (snapshot : Snapshot) : List Answer := snapshot.opened ++ [.drained]

end Snapshot

/-- Requests of each kind are answered in kind, and none is answered twice. -/
def AnsweredInKind (past : List (Turn Snapshot Snapshot)) : Prop :=
  ∀ request, AnsweredOnce (· == request)
    (Frame.carries fun frame => (answerOf? frame).any fun answer => answer.asked == request) past

/-- The answers so far are those of the snapshots that were handed over, and then the first
answers of one more, which is what the watcher remembers. -/
inductive Gathering (past : List (Turn Snapshot Snapshot)) (state : State Snapshot) : Prop where
  | between (whole : told past = (handed past).flatMap Snapshot.answers)
      (empty : state.reader.isDone = false → state.outlook.transactions = [])
  | within (begun : Snapshot)
      (whole : told past = (handed past).flatMap Snapshot.answers ++ begun.opened)
      (known : state.reader.isDone = false → state.outlook = begun)

section

variable {stored : List Point} {past : List (Turn Snapshot Snapshot)}
  {state next : State Snapshot} {event : Event} {effects : List (Effect Snapshot)}
  {turn : Turn Snapshot Snapshot}

/-! The requests that answers reply to, and the requests that they lead to. -/

theorem requests_of_opened (snapshot : Snapshot) :
    .acquireMempool :: snapshot.opened.map Answer.next =
      snapshot.opened.map Answer.asked ++ [.nextTransaction] := by
  have next : (snapshot.transactions.map Answer.listed).map Answer.next =
      List.replicate snapshot.transactions.length .nextTransaction := by
    simp [Function.comp_def, Answer.next, List.map_const']
  have asked : (snapshot.transactions.map Answer.listed).map Answer.asked =
      List.replicate snapshot.transactions.length .nextTransaction := by
    simp [Function.comp_def, Answer.asked, List.map_const']
  rw [Snapshot.opened, List.map_cons, List.map_cons, next, asked, List.cons_append,
    ← List.replicate_succ']
  rfl

theorem requests_of_answers (snapshots : List Snapshot) :
    .acquireMempool :: (snapshots.flatMap Snapshot.answers).map Answer.next =
      (snapshots.flatMap Snapshot.answers).map Answer.asked ++ [.acquireMempool] := by
  induction snapshots with
  | nil => rfl
  | cons snapshot snapshots induction =>
      simp only [List.flatMap_cons, Snapshot.answers, List.map_append, List.append_assoc]
      rw [← List.cons_append, requests_of_opened, List.append_assoc]
      exact congrArg (fun rest => _ ++ .nextTransaction :: rest) induction

theorem requests_of_unfinished (snapshots : List Snapshot) (begun : Snapshot) :
    .acquireMempool :: (snapshots.flatMap Snapshot.answers ++ begun.opened).map Answer.next =
      (snapshots.flatMap Snapshot.answers ++ begun.opened).map Answer.asked ++
        [.nextTransaction] := by
  rw [List.map_append, List.map_append, ← List.cons_append, requests_of_answers,
    List.append_assoc, List.append_assoc, ← requests_of_opened]
  rfl

theorem count_heard_of_told (request : Request) :
    (heard past).countP (fun frame =>
        (answerOf? frame).any fun answer => answer.asked == request) =
      ((told past).map Answer.asked).countP (· == request) := by
  rw [told, List.countP_map, List.countP_filterMap]
  refine List.countP_congr fun frame _ => ?_
  cases answerOf? frame <;> simp

/-- An answer in kind replies to the one request that is open. -/
theorem asked_of_kind {answer : Answer} {open_ : Request}
    (reached : Reached conversation stored past state) (running : state.stopped = false)
    (begun : state.reader ≠ .starting)
    (answered : .acquireMempool :: (told past).map Answer.next =
      (told past).map Answer.asked ++ [open_])
    (kind : ((told past ++ [answer]).map Answer.asked).countP (· == answer.asked) ≤
      (sent past).countP (· == answer.asked)) : answer.asked = open_ := by
  have law : sent past ++ (state.unsent ++ state.reader.due) =
      (told past).map Answer.asked ++ [open_] := by
    rcases sent_of_reached reached running with ⟨starting, -⟩ | ⟨-, law⟩
    · exact absurd starting begun
    · rw [← List.append_assoc, law, answered]
  have bound : (sent past).countP (· == answer.asked) ≤
      ((told past).map Answer.asked ++ [open_]).countP (· == answer.asked) := by
    rw [← law, List.countP_append]
    exact Nat.le_add_right _ _
  simp only [List.map_append, List.countP_append, List.map_cons, List.map_nil] at kind bound
  -- Of any other kind, no more requests were made than have been answered already.
  by_contra other
  have one : [answer.asked].countP (· == answer.asked) = 1 := by simp
  have none : [open_].countP (· == answer.asked) = 0 := by simp [Ne.symm other]
  omega

/-! What the watcher gathers. -/

theorem gathering_of_quiet (gathering : Gathering past state)
    (untold : told (past ++ [turn]) = told past) (calls : handed (past ++ [turn]) = handed past)
    (goes : next.reader.isDone = false →
      state.reader.isDone = false ∧ next.outlook = state.outlook) :
    Gathering (past ++ [turn]) next := by
  cases gathering with
  | between whole empty =>
      refine .between (by rw [untold, calls, whole]) fun listening => ?_
      rw [(goes listening).2]
      exact empty (goes listening).1
  | within begun whole known =>
      refine .within begun (by rw [untold, calls, whole]) fun listening => ?_
      rw [(goes listening).2]
      exact known (goes listening).1

/-- The request that is open says whether a snapshot is under way. -/
theorem gathering_cases (gathering : Gathering past state)
    (receiving : state.reader = .receiving) :
    (∃ slot, state.memory = ⟨[], slot⟩ ∧
        told past = (handed past).flatMap Snapshot.answers ∧
        .acquireMempool :: (told past).map Answer.next =
          (told past).map Answer.asked ++ [.acquireMempool]) ∨
      (told past = (handed past).flatMap Snapshot.answers ++ state.memory.opened ∧
        .acquireMempool :: (told past).map Answer.next =
          (told past).map Answer.asked ++ [.nextTransaction]) := by
  have listening : state.reader.isDone = false := by simp [receiving, Reader.isDone]
  have outlook : state.outlook = state.memory := by simp [State.outlook, receiving]
  cases gathering with
  | between whole empty =>
      refine .inl ⟨state.memory.slot, ?_, whole, by rw [whole, requests_of_answers]⟩
      rw [← empty listening, outlook]
  | within begun whole known =>
      have same : state.memory = begun := outlook ▸ known listening
      refine .inr ⟨by rw [same, whole], by rw [whole, requests_of_unfinished]⟩

theorem gathering_of_note {answer : Answer} {memory : Snapshot}
    (gathering : Gathering past state) (receiving : state.reader = .receiving)
    (kind : ∀ open_, .acquireMempool :: (told past).map Answer.next =
      (told past).map Answer.asked ++ [open_] → answer.asked = open_)
    (grown : told (past ++ [turn]) = told past ++ [answer])
    (calls : handed (past ++ [turn]) = handed past)
    (responds : respond state.memory answer = .proceed memory [.nextTransaction])
    (reader : next.reader = .receiving) (kept : next.memory = memory) :
    Gathering (past ++ [turn]) next := by
  have outlook : next.outlook = memory := by simp [State.outlook, reader, kept]
  refine .within memory ?_ fun _ => outlook
  rw [grown, calls]
  rcases gathering_cases gathering receiving with ⟨slot, fresh, whole, order⟩ | ⟨whole, order⟩
  · have acquires := kind _ order
    cases answer with
    | acquired slot =>
        simp only [respond, fresh, Reaction.proceed.injEq] at responds
        rw [whole, ← responds.1]
        rfl
    | listed transaction | drained => cases acquires
  · have lists := kind _ order
    cases answer with
    | listed transaction =>
        simp only [respond, Reaction.proceed.injEq] at responds
        rw [whole, ← responds.1]
        simp [Snapshot.opened]
    | acquired slot => cases lists
    | drained => cases responds

theorem gathering_of_drain (gathering : Gathering past state)
    (receiving : state.reader = .receiving)
    (kind : ∀ open_, .acquireMempool :: (told past).map Answer.next =
      (told past).map Answer.asked ++ [open_] → Answer.drained.asked = open_)
    (grown : told (past ++ [turn]) = told past ++ [.drained])
    (calls : handed (past ++ [turn]) = handed past ++ [state.memory])
    (reader : next.reader =
      .calling none { state.memory with transactions := [] } [.acquireMempool]) :
    Gathering (past ++ [turn]) next := by
  refine .between ?_ fun _ => by simp [State.outlook, reader]
  rcases gathering_cases gathering receiving with ⟨slot, fresh, whole, order⟩ | ⟨whole, order⟩
  · cases kind _ order
  · rw [grown, calls, whole, List.flatMap_append]
    simp [Snapshot.answers]

theorem asked_of_arrival {answer : Answer} {open_ : Request}
    (reached : Reached conversation stored (past ++ [turn]) next)
    (kind : AnsweredInKind (past ++ [turn])) (receiving : turn.state.reader = .receiving)
    (running : turn.state.stopped = false)
    (grown : told (past ++ [turn]) = told past ++ [answer])
    (silent : turn.effects.filterMap Effect.request? = [])
    (answered : .acquireMempool :: (told past).map Answer.next =
      (told past).map Answer.asked ++ [open_]) : answer.asked = open_ := by
  have bound := (kind answer.asked).now
  rw [count_arrivals_of_reached _ reached, count_heard_of_told, grown, sent_snoc, silent,
    List.append_nil] at bound
  exact asked_of_kind (reached_snoc reached).1 running (by simp [receiving]) answered bound

theorem outlook_of_progress (progress : Progress turn next) (silent : turn.text? = none)
    (listening : next.reader.isDone = false) :
    turn.state.reader.isDone = false ∧ next.outlook = turn.state.outlook := by
  unfold State.outlook
  cases progress with
  | rests reader kept =>
      rcases reader with same | ⟨receiving, ponging⟩ | ⟨ponging, receiving⟩
      · exact ⟨same ▸ listening, by rw [same, kept]⟩
      · simp [receiving, ponging, kept, Reader.isDone]
      · simp [receiving, ponging, kept, Reader.isDone]
  | starts starting begins reader kept => simp [starting, reader, kept, Reader.isDone]
  | takes memory calling taken reader kept => simp [calling, reader, kept, Reader.isDone]
  | notes answer memory receiving running other reads | drains receiving running other reads =>
      simp [silent] at reads
  | ends begun done =>
      rw [done] at listening
      cases listening

theorem gathering_snoc (gathering : Gathering past turn.state)
    (reached : Reached conversation stored (past ++ [turn]) next)
    (kind : AnsweredInKind (past ++ [turn])) : Gathering (past ++ [turn]) next := by
  have grown := told_snoc reached
  cases progress_of_reached reached with
  | rests reader kept silent going other calls =>
      exact gathering_of_quiet gathering (by simp [grown, silent]) (by simp [calls])
        (outlook_of_progress (progress_of_reached reached) silent)
  | starts starting begins reader kept silent nothing
  | takes memory calling taken reader kept silent nothing =>
      exact gathering_of_quiet gathering (by simp [grown, silent]) (by simp [nothing])
        (outlook_of_progress (progress_of_reached reached) silent)
  | ends begun done unread other calls =>
      refine gathering_of_quiet gathering (by simp [grown, unread]) (by simp [calls]) ?_
      intro listening
      rw [done] at listening
      cases listening
  | notes answer memory receiving running other reads responds reader kept nothing =>
      rw [reads] at grown
      exact gathering_of_note gathering receiving
        (fun _ => asked_of_arrival reached kind receiving running grown (by rw [nothing]; rfl))
        grown (by simp [nothing]) responds reader kept
  | drains receiving running other reads reader call =>
      rw [reads] at grown
      exact gathering_of_drain gathering receiving
        (fun _ => asked_of_arrival reached kind receiving running grown (by rw [call]; rfl))
        grown (by simp [call, Effect.delivery?]) reader

theorem gathering_of_reached (reached : Reached conversation stored past state)
    (kind : AnsweredInKind past) : Gathering past state := by
  induction reached with
  | start => exact .between rfl fun _ => rfl
  | step reached possible gathering =>
      exact gathering_snoc (gathering fun request => (kind request).earlier)
        (reached.step possible) kind

/-- The answers of the node are those of the snapshots that were handed over, one after the
other, each acquired, listed and drained, and then the first ones of a snapshot that is not
handed over. -/
theorem snapshots_handed_whole (reached : Reached conversation stored past state)
    (kind : AnsweredInKind past) :
    ∃ rest, told past = (handed past).flatMap Snapshot.answers ++ rest ∧
      (rest = [] ∨ ∃ begun : Snapshot, rest = begun.opened) := by
  cases gathering_of_reached reached kind with
  | between whole => exact ⟨[], by rw [whole, List.append_nil], .inl rfl⟩
  | within begun whole => exact ⟨begun.opened, whole, .inr ⟨begun, rfl⟩⟩

/-! A run in which a snapshot of one transaction is handed over. -/

theorem kind_snoc_of_even (kind : AnsweredInKind past)
    (reached : Reached conversation stored (past ++ [turn]) next)
    (even : (told (past ++ [turn])).map Answer.asked = sent (past ++ [turn])) :
    AnsweredInKind (past ++ [turn]) := by
  intro request
  apply answered_once_snoc (kind request)
  rw [count_arrivals_of_reached _ reached, count_heard_of_told, even]

/-- The request that is queued is handed to the line and then answered. -/
theorem reached_exchange {frame : Bytes} {answer : Answer}
    (reached : Reached conversation stored past state) (running : state.stopped = false)
    (waiting : state.writer = .waiting) (queued : state.queue = [answer.asked])
    (kind : AnsweredInKind past) (even : (told past).map Answer.asked = sent past)
    (reads : answerOf? frame = some answer)
    (possible : step conversation { state with queue := [] } (.received (.ok (.text frame))) =
      some (next, effects)) (silent : effects.filterMap Effect.request? = []) :
    ∃ later, Reached conversation stored later next ∧ AnsweredInKind later ∧
      (told later).map Answer.asked = sent later ∧
      handed later = handed past ++ effects.filterMap Effect.delivery? := by
  obtain ⟨more, asked, gone, arrived, given⟩ := reached_handing reached running waiting queued
  have answered := asked.step possible
  have untold : told (past ++ more) = told past := by
    rw [told, heard_of_reached asked, arrived, ← heard_of_reached reached, told]
  have text : Turn.text? ⟨{ state with queue := [] }, .received (.ok (.text frame)), effects⟩ =
      some frame := by simp [Turn.text?, Turn.arrival?, running, Frame.text?]
  refine ⟨_, answered, kind_snoc_of_even (fun request => (kind request).later arrived) answered
    ?even, ?even, by rw [handed_snoc, given]⟩
  rw [told_snoc answered, text, Option.bind_some, reads, untold, sent_snoc, gone, silent,
    List.map_append, even, List.append_nil]
  rfl

end

theorem run_of_snapshot {first second third : Bytes} {slot : Int}
    {transaction : Current.Transaction} (acquires : answerOf? first = some (.acquired slot))
    (lists : answerOf? second = some (.listed transaction))
    (drains : answerOf? third = some .drained) :
    ∃ past state, Reached conversation [] past state ∧ AnsweredInKind past ∧
      handed past = [⟨[transaction], slot⟩] := by
  have begins : Reached conversation [] [] _ := .start
  have waits := begins.step (show step _ _ .writerStarts = some (_, _) from rfl)
  have asks := waits.step (show step _ _ .readerStarts = some (_, _) from rfl)
  obtain ⟨early, acquired, kind, even, none⟩ := reached_exchange asks rfl rfl rfl
    (fun request => answered_once_of_none nofun) rfl acquires
    (step_text_of_proceed rfl rfl (react_of_answer acquires)) rfl
  obtain ⟨later, listed, kind, even, still⟩ := reached_exchange acquired rfl rfl rfl kind even
    lists (step_text_of_proceed rfl rfl (react_of_answer lists)) rfl
  obtain ⟨last, drained, kind, -, one⟩ := reached_exchange listed rfl rfl rfl kind even drains
    (step_text_of_deliver rfl rfl (react_of_answer drains)) rfl
  refine ⟨last, _, drained, kind, ?_⟩
  rw [one, still, none]
  rfl

def oneTransaction : Bytes :=
  Text.encodeUtf8 ("\x7b\"method\":\"nextTransaction\",\"result\":" ++
    "\x7b\"transaction\":\x7b\"id\":\"ab\"\x7d\x7d\x7d")

def noTransaction : Bytes :=
  Text.encodeUtf8 "\x7b\"method\":\"nextTransaction\",\"result\":\x7b\"transaction\":null\x7d\x7d"

theorem answer_of_one_transaction :
    ∃ transaction, answerOf? oneTransaction = some (.listed transaction) := by
  have listed : (answerOf? oneTransaction).any
      (fun answer => match answer with | .listed _ => true | _ => false) = true := by
    decide +kernel
  revert listed
  cases answerOf? oneTransaction with
  | none => nofun
  | some answer =>
      cases answer with
      | listed transaction => exact fun _ => ⟨transaction, rfl⟩
      | acquired slot | drained => nofun

theorem answer_of_no_transaction : answerOf? noTransaction = some .drained := by decide +kernel

theorem snapshots_handed_whole_of_one :
    ∃ past state transaction, Reached conversation [] past state ∧ AnsweredInKind past ∧
      handed past = [⟨[transaction], 7⟩] ∧
      ∃ rest, told past = (handed past).flatMap Snapshot.answers ++ rest ∧
        (rest = [] ∨ ∃ begun : Snapshot, rest = begun.opened) := by
  obtain ⟨transaction, lists⟩ := answer_of_one_transaction
  obtain ⟨past, state, reached, kind, given⟩ :=
    run_of_snapshot answer_of_slot_seven lists answer_of_no_transaction
  exact ⟨past, state, transaction, reached, kind, given, snapshots_handed_whole reached kind⟩

end NodeBridge.MempoolWatcher
