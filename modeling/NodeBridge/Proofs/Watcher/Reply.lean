import NodeBridge.Proofs.Connection.Conservation
import NodeBridge.Session.MempoolWatcher

/-!
What a mempool watcher takes from a reply. A reply tells the slot of a new snapshot, lists one
of its transactions, or says that there is none left. Each of these answers one kind of
request and leads to one further request; any other reply ends the connection. So the replies
that were heard say which requests were made.
-/

namespace NodeBridge.MempoolWatcher

open Connection

/-- What a reply of the node says. -/
inductive Answer where
  | acquired (slot : Int)
  | listed (transaction : Current.Transaction)
  | drained
deriving DecidableEq

namespace Answer

/-- The request that is answered. -/
def asked : Answer → Request
  | .acquired _ => .acquireMempool
  | .listed _ | .drained => .nextTransaction

/-- The request that follows. -/
def next : Answer → Request
  | .acquired _ | .listed _ => .nextTransaction
  | .drained => .acquireMempool

end Answer

def Reply.answer? (reply : Reply) : Option Answer :=
  if reply.method = acquireMempool then
    (Decode.integer "acquireMempool.slot" (Json.get reply.result "slot")).toOption.map .acquired
  else if reply.method = nextTransaction then
    let json := Json.get reply.result "transaction"
    if json.isNull then some .drained
    else (Adaptive.mempoolTransaction json).toOption.map .listed
  else none

/-- What a frame says, if it is a proper reply. -/
def answerOf? (frame : Bytes) : Option Answer := (readReply frame).toOption.bind Reply.answer?

/-- What the watcher does about an answer. -/
def respond (memory : Snapshot) : Answer → Reaction Snapshot Snapshot
  | .acquired slot => .proceed { memory with slot := slot } [.nextTransaction]
  | .listed transaction =>
      .proceed { memory with transactions := memory.transactions ++ [transaction] }
        [.nextTransaction]
  | .drained => .deliver memory none { memory with transactions := [] } [.acquireMempool]

section

variable {stored : List Point} {past : List (Turn Snapshot Snapshot)}
  {state next : State Snapshot} {event : Event} {effects : List (Effect Snapshot)}
  {turn : Turn Snapshot Snapshot} {frame : Bytes}

theorem answer_cases (memory : Snapshot) (reply : Reply) :
    (∃ told, reply.answer? = some told ∧ answer memory reply = respond memory told) ∨
      reply.answer? = none ∧ ∃ failure, answer memory reply = .refuse failure := by
  unfold Reply.answer? answer
  split
  · cases Decode.integer "acquireMempool.slot" (Json.get reply.result "slot") with
    | ok slot => exact .inl ⟨.acquired slot, rfl, rfl⟩
    | error error => exact .inr ⟨rfl, _, rfl⟩
  · split
    · dsimp only
      split
      · exact .inl ⟨.drained, rfl, rfl⟩
      · cases Adaptive.mempoolTransaction (Json.get reply.result "transaction") with
        | ok transaction => exact .inl ⟨.listed transaction, rfl, rfl⟩
        | error error => exact .inr ⟨rfl, _, rfl⟩
    · exact .inr ⟨rfl, _, rfl⟩

/-- A watcher responds to proper replies and refuses all others. -/
theorem react_cases (memory : Snapshot) (frame : Bytes) :
    (∃ told, answerOf? frame = some told ∧ react memory frame = respond memory told) ∨
      answerOf? frame = none ∧ ∃ failure, react memory frame = .refuse failure := by
  unfold answerOf? react
  cases readReply frame with
  | ok reply => exact answer_cases memory reply
  | error complaint => exact .inr ⟨rfl, _, rfl⟩

theorem react_of_answer {memory : Snapshot} {told : Answer} (reads : answerOf? frame = some told) :
    react memory frame = respond memory told := by
  rcases react_cases memory frame with ⟨other, same, responds⟩ | ⟨unread, -⟩
  · rw [reads] at same
    cases same
    exact responds
  · rw [reads] at unread
    cases unread

theorem requests_react (memory : Snapshot) (frame : Bytes) :
    (conversation.react memory frame).requests =
      (answerOf? frame).toList.map Answer.next := by
  rcases react_cases memory frame with ⟨told, said, responds⟩ | ⟨said, failure, refuses⟩
  · rw [said]
    refine (congrArg Reaction.requests responds).trans ?_
    cases told <;> rfl
  · rw [said]
    exact congrArg Reaction.requests refuses

/-- Nothing is saved, and the next snapshot is acquired once the last one is taken. -/
def IsPlain : Reader Snapshot → Prop
  | .calling save _ requests => save = none ∧ requests = [.acquireMempool]
  | .saving _ _ => False
  | _ => True

/-- All that a turn can do to the reader of a watcher: nothing of note happens, the reader
starts, an answer is noted, the last answer of a snapshot has the snapshot handed over, the
snapshot is taken, or the reader ends. -/
inductive Progress (turn : Turn Snapshot Snapshot) (next : State Snapshot) : Prop where
  | rests (reader : next.reader = turn.state.reader ∨
        turn.state.reader = .receiving ∧ next.reader = .ponging ∨
        turn.state.reader = .ponging ∧ next.reader = .receiving)
      (kept : next.memory = turn.state.memory) (silent : turn.text? = none)
      (going : turn.event ≠ .readerStarts) (other : turn.event ≠ .called (.ok ()))
      (calls : turn.effects.filterMap Effect.delivery? = [])
  | starts (starting : turn.state.reader = .starting) (begins : turn.event = .readerStarts)
      (reader : next.reader = .receiving) (kept : next.memory = turn.state.memory)
      (silent : turn.text? = none) (nothing : turn.effects = [])
  | notes (answer : Answer) (memory : Snapshot) (receiving : turn.state.reader = .receiving)
      (running : turn.state.stopped = false) (other : turn.event ≠ .called (.ok ()))
      (reads : turn.text?.bind answerOf? = some answer)
      (responds : respond turn.state.memory answer = .proceed memory [.nextTransaction])
      (reader : next.reader = .receiving) (kept : next.memory = memory)
      (nothing : turn.effects = [])
  | drains (receiving : turn.state.reader = .receiving) (running : turn.state.stopped = false)
      (other : turn.event ≠ .called (.ok ()))
      (reads : turn.text?.bind answerOf? = some .drained)
      (reader : next.reader =
        .calling none { turn.state.memory with transactions := [] } [.acquireMempool])
      (call : turn.effects = [.call turn.state.memory])
  | takes (memory : Snapshot)
      (calling : turn.state.reader = .calling none memory [.acquireMempool])
      (taken : turn.event = .called (.ok ())) (reader : next.reader = .receiving)
      (kept : next.memory = memory) (silent : turn.text? = none) (nothing : turn.effects = [])
  | ends (begun : turn.state.reader ≠ .starting) (done : next.reader.isDone = true)
      (unread : turn.text?.bind answerOf? = none) (other : turn.event ≠ .called (.ok ()))
      (calls : turn.effects.filterMap Effect.delivery? = [])

theorem progress_of_receipt {outcome : Except Failure Frame}
    (received : turn.event = .received outcome) (receiving : turn.state.reader = .receiving)
    (receipt : Receipt conversation turn.state outcome next turn.effects) :
    Progress turn next := by
  have text := text_of_received received
  have begun : turn.state.reader ≠ .starting := by simp [receiving]
  have other : turn.event ≠ .called (.ok ()) := by simp [received]
  cases receipt with
  | ends memory ends which done saves =>
      exact .ends begun done (by simp [text, ends]) other (by rw [saves]; rfl)
  | breaks goes untexted finished nothing =>
      exact .ends begun (by rw [finished]; rfl) (by simp [text, untexted]) other
        (by rw [nothing]; rfl)
  | passes goes untexted reader kept calls saves =>
      refine .rests ?_ kept (by simp [text, untexted]) (by simp [received]) other calls
      rcases reader with same | ponging
      · exact .inl (same.trans receiving.symm)
      · exact .inr (.inl ⟨receiving, ponging⟩)
  | proceeds frame memory requests goes arrived reacts reader kept nothing =>
      rw [goes, arrived] at text
      rcases react_cases turn.state.memory frame with
        ⟨answer, reads, responds⟩ | ⟨-, failure, refuses⟩
      · have same : respond turn.state.memory answer = .proceed memory requests :=
          responds.symm.trans reacts
        have one : requests = [.nextTransaction] := by
          cases answer <;> simp_all [respond]
        subst one
        refine .notes answer memory receiving ?_ other ?_ same reader kept nothing
        · simpa [arrived, State.endsWith] using goes
        · simpa [text, textOf?] using reads
      · cases refuses.symm.trans reacts
  | delivers frame delivery save memory requests goes arrived reacts reader call =>
      rw [goes, arrived] at text
      rcases react_cases turn.state.memory frame with
        ⟨answer, reads, responds⟩ | ⟨-, failure, refuses⟩
      · have same : respond turn.state.memory answer = .deliver delivery save memory requests :=
          responds.symm.trans reacts
        cases answer with
        | acquired slot | listed transaction => cases same
        | drained =>
            simp only [respond, Reaction.deliver.injEq] at same
            obtain ⟨rfl, rfl, rfl, rfl⟩ := same
            refine .drains receiving ?_ other ?_ reader call
            · simpa [arrived, State.endsWith] using goes
            · simpa [text, textOf?] using reads
      · cases refuses.symm.trans reacts
  | refuses frame failure goes arrived reacts finished nothing =>
      rw [goes, arrived] at text
      rcases react_cases turn.state.memory frame with ⟨answer, reads, responds⟩ | ⟨unread, -⟩
      · have same : respond turn.state.memory answer = .refuse failure :=
          responds.symm.trans reacts
        cases answer <;> cases same
      · refine .ends begun (by rw [finished]; rfl) ?_ other (by rw [nothing]; rfl)
        simpa [text, textOf?] using unread

theorem progress_of_step (plain : IsPlain state.reader)
    (possible : step conversation state event = some (next, effects)) :
    Progress ⟨state, event, effects⟩ next := by
  cases event with
  | supervisorStarts | supervisorStops | stopFollowed | closerWakes | closed outcome |
    writerStarts | writerTakes | writerResumes | writerQuits | sent outcome =>
      obtain ⟨reader, memory, calls, -⟩ := step_of_others rfl possible
      exact .rests (.inl reader) memory rfl nofun nofun calls
  | readerStarts =>
      obtain ⟨starting, rfl, rfl⟩ := step_starts possible
      exact .starts starting rfl rfl rfl rfl rfl
  | received outcome =>
      obtain ⟨receiving, receipt⟩ := step_received possible
      exact progress_of_receipt rfl receiving receipt
  | ponged outcome =>
      obtain ⟨ponging, rfl, rfl | ⟨failure, rfl⟩⟩ := step_ponged possible
      · exact .rests (.inr (.inr ⟨ponging, rfl⟩)) rfl rfl nofun nofun rfl
      · exact .ends (by simp [ponging]) rfl rfl nofun rfl
  | called outcome =>
      obtain ⟨save, memory, requests, calling, ends⟩ := step_called possible
      rw [calling] at plain
      obtain ⟨rfl, rfl⟩ := plain
      rcases ends with ⟨point, -, waits, -⟩ | ⟨rfl, -, rfl, rfl⟩ | ⟨failure, rfl, rfl, rfl⟩
      · cases waits
      · exact .takes memory calling rfl rfl rfl rfl rfl
      · exact .ends (by simp [calling]) rfl rfl nofun rfl
  | saved outcome =>
      obtain ⟨rfl, ⟨memory, requests, saving, -⟩ | ⟨context, parting, finished⟩⟩ :=
        step_saved possible
      · rw [saving] at plain
        cases plain
      · exact .ends (by simp [parting]) (by rw [finished]; rfl) rfl nofun rfl

theorem plain_of_done {reader : Reader Snapshot} (done : reader.isDone = true) :
    IsPlain reader := by
  cases reader with
  | parting context | ended => trivial
  | starting | receiving | ponging | calling save memory requests | saving memory requests =>
      cases done

theorem plain_of_reached (reached : Reached conversation stored past state) :
    IsPlain state.reader := by
  induction reached with
  | start => trivial
  | step reached possible plain =>
      cases progress_of_step plain possible with
      | rests reader =>
          rcases reader with same | ⟨-, other⟩ | ⟨-, other⟩
          · rw [same]
            exact plain
          · rw [other]
            trivial
          · rw [other]
            trivial
      | starts starting begins reader
      | notes answer memory receiving running other reads responds reader
      | takes memory calling taken reader =>
          rw [reader]
          trivial
      | drains receiving running other reads reader =>
          rw [reader]
          exact ⟨rfl, rfl⟩
      | ends begun done => exact plain_of_done done

theorem progress_of_reached (reached : Reached conversation stored (past ++ [turn]) next) :
    Progress turn next := by
  obtain ⟨before, possible⟩ := reached_snoc reached
  exact progress_of_step (plain_of_reached before) possible

/-- The answers of the node, in order. -/
def told (past : List (Turn Snapshot Snapshot)) : List Answer :=
  (heard past).filterMap answerOf?

theorem told_snoc (reached : Reached conversation stored (past ++ [turn]) next) :
    told (past ++ [turn]) = told past ++ (turn.text?.bind answerOf?).toList := by
  rw [told, heard_snoc_of_reached reached, List.filterMap_append]
  congr 1
  cases turn.text? with
  | none => rfl
  | some frame => cases reads : answerOf? frame <;> simp [reads]

/-- An answer makes the request that follows it, and nothing but the start makes another. -/
theorem demand_of_answer (going : turn.event ≠ .readerStarts) :
    turn.demand conversation = (turn.text?.bind answerOf?).toList.map Answer.next := by
  unfold Turn.demand
  split
  · next starts => exact absurd starts going
  · unfold Turn.text?
    cases turn.arrival? with
    | none => rfl
    | some frame =>
        cases text : frame.text? with
        | none => simp [text, conversation]
        | some content => simpa [text, conversation] using requests_react _ content

theorem starting_of_progress (progress : Progress turn next)
    (going : turn.event ≠ .readerStarts) :
    (turn.state.reader = .starting ∧ next.reader = .starting ∧ turn.text? = none) ∨
      (turn.state.reader ≠ .starting ∧ next.reader ≠ .starting) := by
  cases progress with
  | rests reader kept silent =>
      rcases reader with same | ⟨receiving, ponging⟩ | ⟨ponging, receiving⟩
      · rw [same]
        by_cases starting : turn.state.reader = .starting
        · exact .inl ⟨starting, starting, silent⟩
        · exact .inr ⟨starting, starting⟩
      · simp [receiving, ponging]
      · simp [receiving, ponging]
  | starts starting begins => exact absurd begins going
  | notes answer memory receiving running other reads responds reader
  | drains receiving running other reads reader => simp [receiving, reader]
  | takes memory calling taken reader => simp [calling, reader]
  | ends begun done =>
      refine .inr ⟨begun, ?_⟩
      intro starting
      simp [starting, Reader.isDone] at done

theorem demands_of_reached (reached : Reached conversation stored past state) :
    (state.reader = .starting ∧ demands conversation past = [] ∧ told past = []) ∨
      (state.reader ≠ .starting ∧
        demands conversation past = .acquireMempool :: (told past).map Answer.next) := by
  induction reached with
  | start => exact .inl ⟨rfl, rfl, rfl⟩
  | @step past state next event effects reached possible induction =>
      have whole := reached.step possible
      by_cases begins : event = .readerStarts
      · subst begins
        obtain ⟨starting, -, rfl⟩ := step_starts possible
        rcases induction with ⟨-, nothing, untold⟩ | ⟨going, -⟩
        · refine .inr ⟨nofun, ?_⟩
          rw [demands_snoc, told_snoc whole, nothing, untold]
          rfl
        · exact absurd starting going
      · rw [demands_snoc, demand_of_answer begins, told_snoc whole]
        rcases induction with ⟨starting, nothing, untold⟩ | ⟨going, all⟩
        · rcases starting_of_progress (progress_of_reached whole) begins with
            ⟨-, still, silent⟩ | ⟨begun, -⟩
          · exact .inl ⟨still, by simp [nothing, silent], by simp [untold, silent]⟩
          · exact absurd starting begun
        · rcases starting_of_progress (progress_of_reached whole) begins with
            ⟨starting, -⟩ | ⟨-, begun⟩
          · exact absurd starting going
          · exact .inr ⟨begun, by rw [all, List.map_append]; rfl⟩

/-- A watcher that goes on listening could read all that it heard. -/
theorem read_of_listening (reached : Reached conversation stored past state)
    (listening : state.reader.isDone = false) :
    ∀ frame ∈ heard past, (answerOf? frame).isSome := by
  induction reached with
  | start => nofun
  | @step past state next event effects reached possible induction =>
      have whole := reached.step possible
      have before : state.reader.isDone = false := by
        cases done : state.reader.isDone with
        | false => rfl
        | true => rw [(step_of_done done possible).1] at listening; cases listening
      intro frame member
      rw [heard_snoc_of_reached whole, List.mem_append] at member
      rcases member with earlier | latest
      · exact induction before frame earlier
      · rw [Option.mem_toList] at latest
        cases progress_of_reached whole with
        | rests reader kept silent | starts starting begins reader kept silent
        | takes memory calling begins reader kept silent =>
            rw [silent] at latest
            cases latest
        | ends begun done =>
            rw [done] at listening
            cases listening
        | notes answer memory receiving running other reads
        | drains receiving running other reads =>
            rw [latest, Option.bind_some] at reads
            rw [reads]
            rfl

theorem length_heard_of_running (reached : Reached conversation stored past state)
    (running : state.stopped = false) : (heard past).length = (told past).length := by
  have listening := listening_of_running (fun _ => rfl) reached running
  rw [told, List.length_filterMap_eq_countP, List.countP_eq_length.mpr]
  exact read_of_listening reached listening

/-- While the connection is not stopped, the requests that were sent and those that are to be
sent are those that the answers lead to, in the same order. -/
theorem sent_of_reached (reached : Reached conversation stored past state)
    (running : state.stopped = false) :
    (state.reader = .starting ∧ sent past ++ state.unsent ++ state.reader.due = [] ∧
        told past = []) ∨
      (state.reader ≠ .starting ∧ sent past ++ state.unsent ++ state.reader.due =
        .acquireMempool :: (told past).map Answer.next) := by
  rw [sent_unsent_of_reached rfl reached running]
  exact demands_of_reached reached

end

/-! A frame that tells a slot. -/

def slotSeven : Bytes :=
  Text.encodeUtf8 "\x7b\"method\":\"acquireMempool\",\"result\":\x7b\"slot\":7\x7d\x7d"

theorem answer_of_slot_seven : answerOf? slotSeven = some (.acquired 7) := by decide +kernel

end NodeBridge.MempoolWatcher
