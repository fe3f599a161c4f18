import NodeBridge.Proofs.Connection.Conservation
import NodeBridge.Proofs.Follower.Memory

/-!
The pipeline of a chain follower. The requests for a block that are queued, in the writer's
hand, or sent and not yet answered never become fewer than the pipeline, and the queue never
grows beyond its capacity. Every frame makes a request, whatever it holds, so each frame that
answers none enlarges the pipeline by one.
-/

namespace NodeBridge.ChainFollower

open Connection

def isBlockRequest (request : Request) : Bool := request == .nextBlock

section

variable {options : Options} {stored : List Point} {past : List (Turn Memory Bytes)}
  {state next : State Memory} {event : Event} {effects : List (Effect Bytes)}
  {turn : Turn Memory Bytes} {answers : Frame → Bool}

theorem requests_react (memory : Memory) (content : Bytes) :
    ((conversation options).react memory content).requests = [] := by
  rcases react_cases options memory content with ⟨-, passes⟩ | ⟨-, noted, -, -, delivers⟩
  · exact congrArg Reaction.requests passes
  · exact congrArg Reaction.requests delivers

/-- Each frame makes a request for a block, and nothing else does. -/
theorem demand_follower : turn.demand (conversation options) =
    turn.arrival?.toList.map fun _ => Request.nextBlock := by
  unfold Turn.demand
  split
  · next starts =>
      simp only [Turn.arrival?, starts, Option.toList_none, List.map_nil]
      rfl
  · cases turn.arrival? with
    | none => rfl
    | some frame =>
        simp only [requests_react]
        simp [conversation]

/-- How the requests of a follower stand. The opening goes first, and all else that is
queued or handed over asks for a block. -/
structure Pumping (options : Options) (stored : List Point) (past : List (Turn Memory Bytes))
    (state : State Memory) : Prop where
  bounded : state.queue.length ≤ capacity
  blocks : ∀ request ∈ state.queue, request = .nextBlock
  writer : state.writer = .starting (some (Handshake.request stored options.points)) ∧
      sent past = [] ∨
    (∀ opening, state.writer ≠ .starting opening) ∧
      (∀ request ∈ state.writer.held, request = .nextBlock) ∧
      ∃ count, sent past =
        Handshake.request stored options.points :: List.replicate count .nextBlock

/-- What is in the hand of a writer that has begun, and what it has sent. -/
theorem Pumping.begun (pumping : Pumping options stored past state)
    (begun : ∀ opening, state.writer ≠ .starting opening) :
    (∀ request ∈ state.writer.held, request = .nextBlock) ∧
      ∃ count, sent past =
        Handshake.request stored options.points :: List.replicate count .nextBlock := by
  rcases pumping.writer with ⟨first, -⟩ | ⟨-, whole⟩
  · exact absurd first (begun _)
  · exact whole

theorem pumping_of_reader (pumping : Pumping options stored past state)
    (reached : Reached (conversation options) stored past state)
    (possible : step (conversation options) state event = some (next, effects))
    (ofReader : event.isOfReader = true) :
    Pumping options stored (past ++ [⟨state, event, effects⟩]) next := by
  obtain ⟨now, asking⟩ := step_of_asking ofReader possible
  have none : state.reader.due = [] := due_of_reached requests_react reached
  have owed := asking.owed
  rw [none, List.nil_append, demand_follower] at owed
  constructor
  · rw [asking.queue]
    exact length_enqueue_le now pumping.bounded
  · intro request member
    rw [asking.queue] at member
    rcases mem_of_mem_enqueue member with queued | new
    · exact pumping.blocks request queued
    · have made := owed.subset (List.mem_append_left _ new)
      obtain ⟨frame, -, same⟩ := List.mem_map.mp made
      exact same.symm
  · rw [asking.untouched.writer, sent_snoc, asking.sends, List.append_nil]
    exact pumping.writer

theorem pumping_of_handling (pumping : Pumping options stored past state)
    (handling : Handling state next (turn.effects.filterMap Effect.request?)) :
    Pumping options stored (past ++ [turn]) next := by
  have suffix := handling.queue_suffix
  refine ⟨suffix.length_le.trans pumping.bounded,
    fun request member => pumping.blocks request (suffix.subset member), ?_⟩
  rw [sent_snoc]
  cases handling with
  | opens opening starting begun queue sends =>
      rcases pumping.writer with ⟨first, nothing⟩ | ⟨begun, -⟩
      · rw [starting, Writer.starting.injEq] at first
        rw [nothing, sends, first]
        have idle : ∀ opening, next.writer ≠ .starting opening := by
          rcases begun with waiting | ⟨request, sending⟩ <;> simp [*]
        have free : next.writer.held = [] := by
          rcases begun with waiting | ⟨request, sending⟩ <;> simp [Writer.held, *]
        exact .inr ⟨idle, by simp [free], 0, rfl⟩
      · exact absurd starting (begun opening)
  | takes request waiting holding queue sends =>
      obtain ⟨-, count, gone⟩ := pumping.begun (by simp [waiting])
      have block : request = .nextBlock := pumping.blocks request (by simp [queue])
      exact .inr ⟨by simp [holding], by simp [holding, Writer.held, block], count,
        by simp [sends, gone]⟩
  | hands request running holding sending queue sends =>
      obtain ⟨blocks, count, gone⟩ := pumping.begun (by simp [holding])
      have block : request = .nextBlock := blocks request (by simp [holding, Writer.held])
      refine .inr ⟨by simp [sending], by simp [sending, Writer.held], count + 1, ?_⟩
      rw [sends, gone, block, List.cons_append, List.replicate_succ']
  | drops request stopped holding ended queue sends =>
      obtain ⟨-, count, gone⟩ := pumping.begun (by simp [holding])
      exact .inr ⟨by simp [ended], by simp [ended, Writer.held], count, by simp [sends, gone]⟩
  | rests writer queue sends =>
      rw [sends, List.append_nil]
      rcases writer with same | ⟨before, after⟩
      · rw [same]
        exact pumping.writer
      · have begun : ∀ opening, state.writer ≠ .starting opening := by
          rcases before with waiting | ⟨request, sending⟩ <;> simp [*]
        obtain ⟨-, gone⟩ := pumping.begun begun
        refine .inr ⟨?_, ?_, gone⟩
        · rcases after with waiting | ⟨ended, -⟩ <;> simp [*]
        · rcases after with waiting | ⟨ended, -⟩ <;> simp [Writer.held, *]

theorem pumping_of_reached (reached : Reached (conversation options) stored past state) :
    Pumping options stored past state := by
  induction reached with
  | start =>
      refine ⟨?_, ?_, .inl ⟨rfl, rfl⟩⟩
      · exact List.length_replicate.trans_le (Nat.min_le_right _ _)
      · intro request member
        exact List.eq_of_mem_replicate member
  | @step past state next event effects reached possible pumping =>
      cases ofReader : event.isOfReader with
      | true => exact pumping_of_reader pumping reached possible ofReader
      | false => exact pumping_of_handling pumping (step_of_handling ofReader possible)

/-- The requests for a block that were sent, are in the writer's hand or in the queue. -/
def requested (past : List (Turn Memory Bytes)) (state : State Memory) : Nat :=
  (sent past ++ state.unsent).countP isBlockRequest

theorem count_of_blocks {requests : List Request}
    (blocks : ∀ request ∈ requests, request = .nextBlock) :
    requests.countP isBlockRequest = requests.length := by
  rw [List.countP_eq_length]
  intro request member
  rw [blocks request member]
  rfl

theorem asked_of_reader (reached : Reached (conversation options) stored past state)
    (possible : step (conversation options) state event = some (next, effects))
    (ofReader : event.isOfReader = true) (running : next.stopped = false) :
    sent (past ++ [⟨state, event, effects⟩]) = sent past ∧ next.writer = state.writer ∧
      next.queue = Conversation.enqueue (some capacity) state.queue
        ((Turn.arrival? ⟨state, event, effects⟩).toList.map fun _ => .nextBlock) := by
  obtain ⟨now, asking⟩ := step_of_asking ofReader possible
  have before : state.reader.due = [] := due_of_reached requests_react reached
  have after : next.reader.due = [] := due_of_reached requests_react (reached.step possible)
  have all : now = (Turn.arrival? ⟨state, event, effects⟩).toList.map fun _ => .nextBlock := by
    simpa [before, after, demand_follower] using asking.kept running
  refine ⟨by simp [asking.sends], asking.untouched.writer, ?_⟩
  rw [← all]
  exact asking.queue

/-- Each frame that arrives adds a request for a block, unless the queue is full. -/
theorem requested_of_step (reached : Reached (conversation options) stored past state)
    (possible : step (conversation options) state event = some (next, effects))
    (running : next.stopped = false) (whole : turn = ⟨state, event, effects⟩) :
    requested (past ++ [turn]) next = requested past state + turn.arrival?.toList.length ∨
      requested (past ++ [turn]) next = requested past state ∧
        capacity ≤ next.queue.countP isBlockRequest := by
  subst whole
  unfold requested
  cases ofReader : event.isOfReader with
  | false =>
      have kept := (step_of_handling ofReader possible).conserves
        (running_of_step running possible)
      have none : Turn.arrival? ⟨state, event, effects⟩ = none := by
        cases event <;> simp_all [Event.isOfReader, Turn.arrival?]
      refine .inl ?_
      rw [sent_snoc, List.append_assoc, kept, none]
      rfl
  | true =>
      obtain ⟨gone, writer, queue⟩ := asked_of_reader reached possible ofReader running
      rw [gone, State.unsent, State.unsent, writer, queue]
      cases Turn.arrival? ⟨state, event, effects⟩ with
      | none => exact .inl rfl
      | some frame =>
          have blocks := count_of_blocks (pumping_of_reached reached).blocks
          by_cases full : capacity ≤ state.queue.length
          · have same : Conversation.enqueue (some capacity) state.queue [.nextBlock] =
                state.queue := by simp [Conversation.enqueue, Conversation.put, full]
            refine .inr ⟨?_, ?_⟩
            · simp [same]
            · simpa [same, blocks] using full
          · have longer : Conversation.enqueue (some capacity) state.queue [.nextBlock] =
                state.queue ++ [.nextBlock] := by
              simp [Conversation.enqueue, Conversation.put, full]
            refine .inl ?_
            simp [longer, isBlockRequest, Nat.add_assoc]

theorem requested_start : requested [] (.start (conversation options) stored) =
    min options.pipeline capacity := by
  simp [requested, sent, State.unsent, State.start, conversation, Writer.held, Handshake.request,
    isBlockRequest, List.countP_replicate]

/-- Full queues cost nothing: a request that is dropped is not missed. -/
theorem pipeline_le_requested (reached : Reached (conversation options) stored past state)
    (running : state.stopped = false) (once : AnsweredOnce isBlockRequest answers past) :
    min options.pipeline capacity + (arrivals past).countP answers ≤ requested past state := by
  induction reached with
  | start => simp [requested_start, arrivals]
  | @step past state next event effects reached possible induction =>
      have before := induction (running_of_step running possible) once.earlier
      have answered := once.now
      rcases requested_of_step reached possible running rfl with grows | ⟨-, full⟩
      -- A frame that answers a request brings the next one.
      · rw [grows, arrivals_snoc, List.countP_append]
        have one : (Turn.arrival? ⟨state, event, effects⟩).toList.countP answers ≤
            (Turn.arrival? ⟨state, event, effects⟩).toList.length := List.countP_le_length
        omega
      -- What a full queue drops is not missed: the queue alone is as long as the pipeline.
      · simp only [requested, State.unsent, List.countP_append]
        omega

theorem requested_le_arrivals (reached : Reached (conversation options) stored past state)
    (running : state.stopped = false) :
    requested past state ≤ min options.pipeline capacity + (arrivals past).length := by
  induction reached with
  | start => simp [requested_start, arrivals]
  | @step past state next event effects reached possible induction =>
      have before := induction (running_of_step running possible)
      rw [arrivals_snoc, List.length_append]
      rcases requested_of_step reached possible running rfl with grows | ⟨same, -⟩ <;> omega

/-- A connection that was stopped asks for no more blocks. -/
theorem no_block_of_stopped {requests : List Request}
    (reached : Reached (conversation options) stored past state)
    (handling : Handling state next requests) (stopped : state.stopped = true) :
    requests.countP isBlockRequest = 0 := by
  rcases handling.sends_of_stopped stopped with none | ⟨opening, starting, sends⟩
  · rw [none]
    rfl
  · rcases (pumping_of_reached reached).writer with ⟨first, -⟩ | ⟨begun, -⟩
    · rw [starting, Writer.starting.injEq] at first
      rw [sends, first]
      rfl
    · exact absurd starting (begun opening)

theorem sent_le_arrivals (reached : Reached (conversation options) stored past state) :
    (sent past).countP isBlockRequest ≤
      min options.pipeline capacity + (arrivals past).length := by
  induction reached with
  | start => simp [sent]
  | @step past state next event effects reached possible induction =>
      have longer : (arrivals past).length ≤
          (arrivals (past ++ [⟨state, event, effects⟩])).length := by simp
      cases ofReader : event.isOfReader with
      | true =>
          obtain ⟨now, asking⟩ := step_of_asking ofReader possible
          rw [sent_snoc, asking.sends, List.append_nil]
          omega
      | false =>
          have handling := step_of_handling ofReader possible
          cases stopped : state.stopped with
          | false =>
              have whole := requested_le_arrivals reached stopped
              rw [requested, ← handling.conserves stopped, List.countP_append,
                List.countP_append] at whole
              simp only [sent_snoc, List.countP_append]
              omega
          | true =>
              have none := no_block_of_stopped reached handling stopped
              rw [sent_snoc, List.countP_append, none]
              omega

/-- In every run of a chain follower the queue is bounded, the pipeline is kept up as long as
the connection is not stopped, and what is sent is the handshake and then requests for a
block. -/
theorem pipeline_never_drains (reached : Reached (conversation options) stored past state) :
    state.queue.length ≤ capacity ∧
      (state.stopped = false → ∀ answers, AnsweredOnce isBlockRequest answers past →
        min options.pipeline capacity ≤
          state.queue.length + state.writer.held.countP isBlockRequest +
            unanswered isBlockRequest answers past) ∧
      ∃ count, sent past <+:
        Handshake.request stored options.points :: List.replicate count .nextBlock := by
  have pumping := pumping_of_reached reached
  refine ⟨pumping.bounded, ?_, ?_⟩
  · intro running answers once
    have kept := pipeline_le_requested reached running once
    have answered := once.now
    rw [requested, State.unsent, List.countP_append, List.countP_append,
      count_of_blocks pumping.blocks] at kept
    unfold unanswered
    omega
  · rcases pumping.writer with ⟨-, nothing⟩ | ⟨-, -, count, gone⟩
    · exact ⟨0, by rw [nothing]; exact List.nil_prefix⟩
    · exact ⟨count, gone ▸ List.prefix_refl _⟩

end

/-- The reply to a request for a block makes room for the next one. -/
theorem pipeline_never_drains_of_reply :
    ∃ past state, Reached (conversation ⟨1, 2, 0, []⟩) [] past state ∧ state.stopped = false ∧
      arrivals past = [.text stepBack] ∧
      AnsweredOnce isBlockRequest (Frame.carries fun content => (framePoint? content).isSome) past ∧
      min 1 capacity ≤ state.queue.length + state.writer.held.countP isBlockRequest +
        unanswered isBlockRequest (Frame.carries fun content => (framePoint? content).isSome)
          past := by
  have begins : Reached (conversation ⟨1, 2, 0, []⟩) [] [] _ := .start
  have opens := begins.step (show step _ _ .writerStarts = some (_, _) from rfl)
  have opened := opens.step (show step _ _ (.sent (.ok ())) = some (_, _) from rfl)
  have takes := opened.step (show step _ _ .writerTakes = some (_, _) from rfl)
  have hands := takes.step (show step _ _ .writerResumes = some (_, _) from rfl)
  have listens := hands.step (show step _ _ .readerStarts = some (_, _) from rfl)
  have replied := listens.step (show step _ _ (.received (.ok (.text stepBack))) = some (_, _) from
    step_text_of_deliver rfl rfl rfl)
  refine ⟨_, _, replied, rfl, rfl, ?once, (pipeline_never_drains replied).2.1 rfl _ ?once⟩
  exact answered_once_snoc (answered_once_of_none nofun) List.countP_le_length

/-! Runs in which frames come that answer nothing. -/

theorem reached_strays (options : Options) (stored : List Point) (count : Nat) :
    ∃ past state, Reached (conversation options) stored past state ∧ state.stopped = false ∧
      state.writer = .waiting ∧ state.reader = .receiving ∧ state.queue = [] ∧
      arrivals past = List.replicate count (.binary []) ∧
      sent past = Handshake.request stored options.points ::
        List.replicate (min options.pipeline capacity + count) .nextBlock := by
  induction count with
  | zero =>
      have begins : Reached (conversation options) stored [] _ := .start
      have opens := begins.step (show step _ _ .writerStarts = some (_, _) from rfl)
      have opened := opens.step (show step _ _ (.sent (.ok ())) = some (_, _) from rfl)
      have listens := opened.step (show step _ _ .readerStarts = some (_, _) from rfl)
      obtain ⟨more, emptied, gone, arrived⟩ := reached_emptied _ listens rfl rfl rfl
      exact ⟨_, _, emptied, rfl, rfl, rfl, rfl, arrived, gone⟩
  | succ count induction =>
      obtain ⟨past, state, reached, running, waiting, receiving, empty, arrived, gone⟩ := induction
      have strays := reached.step (step_binary [] receiving running)
      obtain ⟨more, emptied, all, same⟩ := reached_emptied [.nextBlock] strays running waiting
        (by rw [State.put, empty]; rfl)
      refine ⟨_, _, emptied, running, waiting, receiving, rfl, ?_, ?_⟩
      · rw [same, arrivals_snoc, arrived, List.replicate_succ']
        simp [Turn.arrival?, running]
      · rw [all, sent_snoc, gone, ← Nat.add_assoc, List.replicate_succ']
        simp [Effect.request?]

theorem unanswered_strays (options : Options) (stored : List Point) (count : Nat) :
    ∃ past state, Reached (conversation options) stored past state ∧ state.stopped = false ∧
      arrivals past = List.replicate count (.binary []) ∧
      ∀ answers : Frame → Bool, answers (.binary []) = false →
        (∀ asks, AnsweredOnce asks answers past) ∧
          unanswered isBlockRequest answers past = min options.pipeline capacity + count := by
  obtain ⟨past, state, reached, running, -, -, -, arrived, gone⟩ :=
    reached_strays options stored count
  refine ⟨past, state, reached, running, arrived, ?_⟩
  intro answers stray
  have none : ∀ frame ∈ arrivals past, answers frame = false := by
    intro frame member
    rw [arrived] at member
    rw [List.eq_of_mem_replicate member, stray]
  have silent : (arrivals past).countP answers = 0 := by
    rw [List.countP_eq_zero]
    intro frame member
    simp [none frame member]
  refine ⟨fun asks => answered_once_of_none none, ?_⟩
  rw [unanswered, silent, gone]
  simp [Handshake.request, isBlockRequest, List.countP_replicate]

/-- Frames that answer no request for a block enlarge the pipeline, and nothing else does: with
at most so many of them, at most so many requests more than the pipeline holds are unanswered,
and there is a run in which they are. The reply to the handshake is one such frame. -/
theorem pipeline_enlarged_by_strays (options : Options) (stored : List Point) (count : Nat) :
    (∀ past state answers, Reached (conversation options) stored past state →
        (arrivals past).countP (fun frame => !answers frame) ≤ count →
          unanswered isBlockRequest answers past ≤ min options.pipeline capacity + count) ∧
      ∃ past state, Reached (conversation options) stored past state ∧ state.stopped = false ∧
        arrivals past = List.replicate count (.binary []) ∧
        ∀ answers : Frame → Bool, answers (.binary []) = false →
          (∀ asks, AnsweredOnce asks answers past) ∧
            unanswered isBlockRequest answers past = min options.pipeline capacity + count := by
  refine ⟨?_, unanswered_strays options stored count⟩
  intro past state answers reached strays
  have bound := sent_le_arrivals reached
  have all : (arrivals past).length = (arrivals past).countP answers +
      (arrivals past).countP fun frame => !answers frame := by
    rw [List.length_eq_countP_add_countP (p := answers)]
    simp
  unfold unanswered
  omega

/-- With a pipeline of one, two binary frames leave three requests unanswered. -/
theorem pipeline_exceeded_by_two_strays :
    ∃ past state, Reached (conversation ⟨1, 1, 0, []⟩) [] past state ∧
      arrivals past = [.binary [], .binary []] ∧
      (∀ asks, AnsweredOnce asks (Frame.carries fun _ => true) past) ∧
      min 1 capacity + 1 < unanswered isBlockRequest (Frame.carries fun _ => true) past := by
  obtain ⟨past, state, reached, -, arrived, strays⟩ := unanswered_strays ⟨1, 1, 0, []⟩ [] 2
  obtain ⟨once, excess⟩ := strays (Frame.carries fun _ => true) rfl
  exact ⟨past, state, reached, arrived, once, by rw [excess]; decide⟩

end NodeBridge.ChainFollower
