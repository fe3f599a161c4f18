import NodeBridge.Proofs.Connection.Deliveries

/-!
The requests of a run. The reader asks, the queue keeps the order, and the writer takes one
request at a time from the queue and hands it to the line. What an event does to the requests
is said here once for the writer and once for the reader; what a run does to them follows.
-/

namespace NodeBridge.Connection

/-- The request in the writer's hand. -/
def Writer.held : Writer → List Request
  | .starting opening => opening.toList
  | .holding request => [request]
  | _ => []

end NodeBridge.Connection

namespace NodeBridge

/-- The requests that follow from a reaction, at once or when its delivery is taken. -/
def Reaction.requests {Memory Delivery : Type} : Reaction Memory Delivery → List Request
  | .proceed _ requests | .deliver _ _ _ requests => requests
  | .refuse _ => []

namespace Frame

def text? : Frame → Option Bytes
  | .text content => some content
  | _ => none

/-- Whether a frame is a text that passes a test. -/
def carries (test : Bytes → Bool) (frame : Frame) : Bool := frame.text?.any test

end Frame

namespace Connection

section

variable {Memory Delivery : Type}

def Effect.request? : Effect Delivery → Option Request
  | .send request => some request
  | _ => none

/-- The requests that the reader makes once the delivery under way is taken. -/
def Reader.due : Reader Memory → List Request
  | .calling _ _ requests | .saving _ requests => requests
  | _ => []

/-- The requests that were not yet handed to the line, the next one first. -/
def State.unsent (state : State Memory) : List Request := state.writer.held ++ state.queue

/-- The frame that arrived, unless the connection was stopped. -/
def Turn.arrival? (turn : Turn Memory Delivery) : Option Frame :=
  match turn.event with
  | .received (.ok frame) => if turn.state.stopped then none else some frame
  | _ => none

/-- The text that arrived, unless the connection was stopped. -/
def Turn.text? (turn : Turn Memory Delivery) : Option Bytes := turn.arrival?.bind Frame.text?

/-- The requests that follow from a turn. -/
def Turn.demand (conversation : Conversation Memory Delivery) (turn : Turn Memory Delivery) :
    List Request :=
  match turn.event with
  | .readerStarts => conversation.greeting
  | _ =>
      turn.arrival?.toList.flatMap fun frame =>
        conversation.refill ++ frame.text?.toList.flatMap fun content =>
          (conversation.react (conversation.count turn.state.memory) content).requests

/-- The requests that were handed to the line. -/
def sent (past : List (Turn Memory Delivery)) : List Request :=
  past.flatMap fun turn => turn.effects.filterMap Effect.request?

/-- The frames that arrived before the connection was stopped. -/
def arrivals (past : List (Turn Memory Delivery)) : List Frame := past.filterMap Turn.arrival?

def demands (conversation : Conversation Memory Delivery)
    (past : List (Turn Memory Delivery)) : List Request :=
  past.flatMap (Turn.demand conversation)

/-- No request of a kind is answered twice: at no time were there more answers than
requests. -/
def AnsweredOnce (asks : Request → Bool) (answers : Frame → Bool)
    (past : List (Turn Memory Delivery)) : Prop :=
  ∀ before, before <+: past → (arrivals before).countP answers ≤ (sent before).countP asks

/-- How many requests of a kind were sent and not yet answered. -/
def unanswered (asks : Request → Bool) (answers : Frame → Bool)
    (past : List (Turn Memory Delivery)) : Nat :=
  (sent past).countP asks - (arrivals past).countP answers

variable {conversation : Conversation Memory Delivery} {stored : List Point}
  {past : List (Turn Memory Delivery)} {state next : State Memory} {event : Event}
  {effects : List (Effect Delivery)} {turn : Turn Memory Delivery}

/-! How the records grow by one turn. -/

theorem sent_append (first second : List (Turn Memory Delivery)) :
    sent (first ++ second) = sent first ++ sent second := List.flatMap_append

@[simp] theorem sent_snoc :
    sent (past ++ [turn]) = sent past ++ turn.effects.filterMap Effect.request? := by
  simp [sent]

@[simp] theorem arrivals_snoc :
    arrivals (past ++ [turn]) = arrivals past ++ turn.arrival?.toList := by
  simp only [arrivals, List.filterMap_append]
  cases arrival : turn.arrival? <;> simp [arrival]

@[simp] theorem demands_snoc :
    demands conversation (past ++ [turn]) =
      demands conversation past ++ turn.demand conversation := by
  simp [demands]

theorem AnsweredOnce.now {asks : Request → Bool} {answers : Frame → Bool}
    (once : AnsweredOnce asks answers past) :
    (arrivals past).countP answers ≤ (sent past).countP asks :=
  once past (List.prefix_refl past)

theorem AnsweredOnce.earlier {asks : Request → Bool} {answers : Frame → Bool}
    (once : AnsweredOnce asks answers (past ++ [turn])) : AnsweredOnce asks answers past :=
  fun before earlier => once before (earlier.trans (List.prefix_append past [turn]))

theorem answered_once_snoc {asks : Request → Bool} {answers : Frame → Bool}
    (once : AnsweredOnce asks answers past)
    (now : (arrivals (past ++ [turn])).countP answers ≤ (sent (past ++ [turn])).countP asks) :
    AnsweredOnce asks answers (past ++ [turn]) := by
  intro before earlier
  rcases List.prefix_concat_iff.mp earlier with rfl | shorter
  · exact now
  · exact once before shorter

theorem answered_once_of_none {asks : Request → Bool} {answers : Frame → Bool}
    (none : ∀ frame ∈ arrivals past, answers frame = false) :
    AnsweredOnce asks answers past := by
  intro before earlier
  have nothing : (arrivals before).countP answers = 0 := by
    rw [List.countP_eq_zero]
    intro frame member
    have later : frame ∈ arrivals past := (earlier.filterMap Turn.arrival?).subset member
    simp [none frame later]
  rw [nothing]
  exact Nat.zero_le _

/-- Requests that are sent while nothing arrives do no harm. -/
theorem AnsweredOnce.later {asks : Request → Bool} {answers : Frame → Bool}
    {more : List (Turn Memory Delivery)} (once : AnsweredOnce asks answers past)
    (silent : arrivals (past ++ more) = arrivals past) :
    AnsweredOnce asks answers (past ++ more) := by
  intro before earlier
  rcases List.prefix_or_prefix_of_prefix earlier (List.prefix_append past more) with
    shorter | longer
  · exact once before shorter
  · have arrived : arrivals before <+: arrivals past := by
      rw [← silent]
      exact earlier.filterMap Turn.arrival?
    obtain ⟨rest, rfl⟩ := longer
    have gone : (sent past).countP asks ≤ (sent (past ++ rest)).countP asks := by
      rw [sent, sent, List.flatMap_append, List.countP_append]
      exact Nat.le_add_right _ _
    exact arrived.sublist.countP_le.trans (once.now.trans gone)

/-! What the writer does. -/

/-- All that can happen to the requests apart from the reader: the writer hands over the
opening, takes a request from the queue, hands it over, drops it because the connection was
stopped, or leaves the requests alone. -/
inductive Handling (state next : State Memory) (requests : List Request) : Prop where
  | opens (opening : Option Request) (starting : state.writer = .starting opening)
      (begun : next.writer = .waiting ∨ ∃ request, next.writer = .sending request)
      (queue : next.queue = state.queue) (sends : requests = opening.toList)
  | takes (request : Request) (waiting : state.writer = .waiting)
      (holding : next.writer = .holding request)
      (queue : state.queue = request :: next.queue) (sends : requests = [])
  | hands (request : Request) (running : state.stopped = false)
      (holding : state.writer = .holding request) (sending : next.writer = .sending request)
      (queue : next.queue = state.queue) (sends : requests = [request])
  | drops (request : Request) (stopped : state.stopped = true)
      (holding : state.writer = .holding request) (ended : next.writer = .ended)
      (queue : next.queue = state.queue) (sends : requests = [])
  | rests (writer : next.writer = state.writer ∨
        (state.writer = .waiting ∨ ∃ request, state.writer = .sending request) ∧
          (next.writer = .waiting ∨ next.writer = .ended ∧
            (state.isClosing = true ∨ next.stopped = true)))
      (queue : next.queue = state.queue) (sends : requests = [])

theorem step_of_handling (others : event.isOfReader = false)
    (possible : step conversation state event = some (next, effects)) :
    Handling state next (effects.filterMap Effect.request?) := by
  cases event with
  | readerStarts | received outcome | ponged outcome | called outcome | saved outcome =>
      simp [Event.isOfReader] at others
  | supervisorStarts | supervisorStops | stopFollowed | closerWakes =>
      simp only [step] at possible
      split at possible <;> cases possible
      exact .rests (.inl rfl) rfl rfl
  | closed outcome =>
      simp only [step] at possible
      split at possible
      · cases outcome <;> cases possible <;> exact .rests (.inl rfl) rfl rfl
      · cases possible
  | writerStarts =>
      simp only [step] at possible
      split at possible
      · next request starting =>
          cases possible
          exact .opens (some request) starting (.inr ⟨request, rfl⟩) rfl rfl
      · next starting =>
          cases possible
          exact .opens none starting (.inl rfl) rfl rfl
      · cases possible
  | writerTakes =>
      simp only [step] at possible
      split at possible
      · next request queue waiting filled =>
          cases possible
          exact .takes request waiting rfl filled rfl
      · cases possible
  | writerResumes =>
      simp only [step] at possible
      split at possible
      · next request holding =>
          split at possible
          · next stopped =>
              cases possible
              exact .drops request stopped holding rfl rfl rfl
          · next running =>
              cases possible
              exact .hands request (by simpa using running) holding rfl rfl rfl
      · cases possible
  | writerQuits =>
      simp only [step] at possible
      split at possible
      · next waits =>
          cases possible
          exact .rests (.inr ⟨.inl waits.1, .inr ⟨rfl, .inr waits.2⟩⟩) rfl rfl
      · cases possible
  | sent outcome =>
      simp only [step] at possible
      split at possible
      · next request done sending =>
          cases possible
          exact .rests (.inr ⟨.inr ⟨request, sending⟩, .inl rfl⟩) rfl rfl
      · next request failure sending =>
          split at possible
          · next closing =>
              cases possible
              exact .rests (.inr ⟨.inr ⟨request, sending⟩, .inr ⟨rfl, .inl closing⟩⟩) rfl rfl
          · cases possible
            exact .rests (.inr ⟨.inr ⟨request, sending⟩, .inr ⟨rfl, .inr rfl⟩⟩) rfl rfl
      · cases possible

/-- The requests keep their order apart from the reader. Only a writer that ends because the
connection was stopped drops the one in its hand. -/
theorem Handling.conserves_or_drops {requests : List Request}
    (handling : Handling state next requests) : requests ++ next.unsent = state.unsent ∨
      state.stopped = true ∧ next.writer = .ended ∧ requests = [] := by
  unfold State.unsent
  cases handling with
  | opens opening starting begun queue sends =>
      have empty : next.writer.held = [] := by
        rcases begun with waiting | ⟨request, sending⟩
        · rw [waiting]; rfl
        · rw [sending]; rfl
      rw [sends, empty, queue, starting]
      exact .inl rfl
  | takes request waiting holding queue sends =>
      rw [sends, waiting, holding, queue]
      exact .inl rfl
  | hands request running holding sending queue sends =>
      rw [sends, holding, sending, queue]
      exact .inl rfl
  | drops request stopped holding ended queue sends => exact .inr ⟨stopped, ended, sends⟩
  | rests writer queue sends =>
      have held : next.writer.held = state.writer.held := by
        rcases writer with same | ⟨waiting | ⟨request, sending⟩, rests | ⟨ended, -⟩⟩ <;>
          simp [Writer.held, *]
      rw [sends, held, queue]
      exact .inl rfl

theorem Handling.conserves {requests : List Request} (handling : Handling state next requests)
    (running : state.stopped = false) : requests ++ next.unsent = state.unsent := by
  rcases handling.conserves_or_drops with kept | ⟨stopped, -⟩
  · exact kept
  · rw [running] at stopped
    cases stopped

theorem Handling.silent_of_ended {requests : List Request}
    (handling : Handling state next requests) (ended : state.writer = .ended) :
    next.writer = .ended ∧ requests = [] := by
  cases handling with
  | opens opening other | takes request other | hands request running other
  | drops request stopped other => cases ended.symm.trans other
  | rests writer queue sends =>
      rcases writer with same | ⟨waiting | ⟨request, sending⟩, -⟩
      · exact ⟨same.trans ended, sends⟩
      · cases ended.symm.trans waiting
      · cases ended.symm.trans sending

theorem Handling.queue_suffix {requests : List Request}
    (handling : Handling state next requests) : next.queue <:+ state.queue := by
  cases handling with
  | opens opening starting begun queue | hands request running holding sending queue
  | drops request stopped holding ended queue | rests writer queue => exact ⟨[], queue⟩
  | takes request waiting holding queue =>
      rw [queue]
      exact List.suffix_cons request next.queue

/-- Once the connection is stopped, only an opening that was not yet handed over still is. -/
theorem Handling.sends_of_stopped {requests : List Request}
    (handling : Handling state next requests) (stopped : state.stopped = true) :
    requests = [] ∨ ∃ opening, state.writer = .starting opening ∧ requests = opening.toList := by
  cases handling with
  | opens opening starting begun queue sends => exact .inr ⟨opening, starting, sends⟩
  | hands request running =>
      rw [stopped] at running
      cases running
  | takes request waiting holding queue sends | drops request stopped holding ended queue sends
  | rests writer queue sends => exact .inl sends

/-! What the reader does. -/

/-- What the reader leaves alone: the other duties, and a stop that was called. -/
structure Untouched (state next : State Memory) : Prop where
  writer : next.writer = state.writer
  closer : next.closer = state.closer
  stop : state.stopped = true → next.stopped = true

/-- All that the reader does about the requests: it sends none itself, and it puts those that
it owes into the queue, unless it ends or still waits for a delivery. When it ends, it stops
the connection, unless a last point is to be saved. -/
structure Asking (conversation : Conversation Memory Delivery) (next : State Memory)
    (turn : Turn Memory Delivery) (now : List Request) : Prop where
  untouched : Untouched turn.state next
  sends : turn.effects.filterMap Effect.request? = []
  queue : next.queue = Conversation.enqueue conversation.capacity turn.state.queue now
  owed : now ++ next.reader.due <+: turn.state.reader.due ++ turn.demand conversation
  kept : next.stopped = false →
    now ++ next.reader.due = turn.state.reader.due ++ turn.demand conversation
  halts : next.reader.isDone = false ∨ next.stopped = true ∨
    ∃ memory point, conversation.parting memory = some point

theorem asking_of_all (now : List Request) (untouched : Untouched turn.state next)
    (halts : next.reader.isDone = false ∨ next.stopped = true ∨
      ∃ memory point, conversation.parting memory = some point)
    (sends : turn.effects.filterMap Effect.request? = [])
    (queue : next.queue = Conversation.enqueue conversation.capacity turn.state.queue now)
    (all : now ++ next.reader.due = turn.state.reader.due ++ turn.demand conversation) :
    ∃ now, Asking conversation next turn now :=
  ⟨now, untouched, sends, queue, all ▸ List.prefix_refl _, fun _ => all, halts⟩

theorem asking_of_failure {failing : State Memory} {failure : Failure}
    (untouched : Untouched turn.state failing)
    (sends : turn.effects.filterMap Effect.request? = [])
    (queue : failing.queue = turn.state.queue) :
    ∃ now, Asking conversation (failing.failReader failure) turn now :=
  ⟨[], ⟨untouched.writer, untouched.closer, fun _ => rfl⟩, sends, queue, List.nil_prefix,
    fun running => (by cases running), .inr (.inl rfl)⟩

theorem asking_of_part {parted : State Memory} {context : Option Failure} (now : List Request)
    (parts : part conversation parted context = (next, turn.effects))
    (idle : turn.state.reader.due = []) (untouched : Untouched turn.state parted)
    (queue : parted.queue = Conversation.enqueue conversation.capacity turn.state.queue now)
    (owes : turn.demand conversation = now) : ∃ now, Asking conversation next turn now := by
  unfold part at parts
  split at parts
  · next parting =>
      obtain ⟨rfl, effects⟩ := Prod.mk.inj parts
      refine asking_of_all now ⟨untouched.writer, untouched.closer, untouched.stop⟩
        (.inr (.inr ⟨_, _, parting⟩)) (by rw [← effects]; rfl) queue ?_
      rw [idle, owes]
      exact List.append_nil now
  · obtain ⟨rfl, effects⟩ := Prod.mk.inj parts
    refine asking_of_all now ⟨untouched.writer, untouched.closer, fun _ => rfl⟩ (.inr (.inl rfl))
      (by rw [← effects]; rfl) queue ?_
    rw [idle, owes]
    exact List.append_nil now

theorem asking_of_handle {frame : Frame} {noted : State Memory}
    (handles : handle conversation noted frame = (next, turn.effects))
    (idle : turn.state.reader.due = []) (receiving : noted.reader = .receiving)
    (untouched : Untouched turn.state noted)
    (queue : noted.queue = Conversation.enqueue conversation.capacity turn.state.queue
      conversation.refill)
    (owes : turn.demand conversation = conversation.refill ++
      frame.text?.toList.flatMap fun content =>
        (conversation.react noted.memory content).requests) :
    ∃ now, Asking conversation next turn now := by
  cases frame with
  | close =>
      exact asking_of_part conversation.refill handles idle untouched queue
        (by simp [owes, Frame.text?])
  | binary content | ping content | pong content =>
      obtain ⟨rfl, effects⟩ := Prod.mk.inj handles
      refine asking_of_all conversation.refill
        ⟨untouched.writer, untouched.closer, untouched.stop⟩
        (.inl (by simp [receiving, Reader.isDone])) (by rw [← effects]; rfl) queue ?_
      rw [idle, owes]
      simp [receiving, Reader.due, Frame.text?]
  | text content =>
      simp only [handle] at handles
      cases reacts : conversation.react noted.memory content with
      | proceed memory requests =>
          rw [reacts] at handles
          obtain ⟨rfl, effects⟩ := Prod.mk.inj handles
          refine asking_of_all (conversation.refill ++ requests)
            ⟨untouched.writer, untouched.closer, untouched.stop⟩ (.inl rfl)
            (by rw [← effects]; rfl) ?_ ?_
          · simp [State.listen, State.put, queue, Conversation.enqueue]
          · rw [idle, owes]
            simp [reacts, Reader.due, Frame.text?, Reaction.requests]
      | deliver delivery save memory requests =>
          rw [reacts] at handles
          obtain ⟨rfl, effects⟩ := Prod.mk.inj handles
          refine asking_of_all conversation.refill
            ⟨untouched.writer, untouched.closer, untouched.stop⟩ (.inl rfl)
            (by rw [← effects]; rfl) queue ?_
          rw [idle, owes]
          simp [reacts, Reader.due, Frame.text?, Reaction.requests]
      | refuse failure =>
          rw [reacts] at handles
          obtain ⟨rfl, effects⟩ := Prod.mk.inj handles
          refine asking_of_all conversation.refill
            ⟨untouched.writer, untouched.closer, fun _ => rfl⟩ (.inr (.inl rfl))
            (by rw [← effects]; rfl) queue ?_
          rw [idle, owes]
          simp [reacts, Reader.due, Frame.text?, Reaction.requests]

theorem asking_of_received {outcome : Except Failure Frame}
    (receiving : state.reader = .receiving)
    (received : receive conversation state outcome = (next, effects)) :
    ∃ now, Asking conversation next ⟨state, .received outcome, effects⟩ now := by
  have idle : state.reader.due = [] := by rw [receiving]; rfl
  cases outcome with
  | error failure =>
      simp only [receive] at received
      split at received
      · exact asking_of_part [] received idle ⟨rfl, rfl, id⟩ rfl rfl
      · obtain ⟨rfl, rfl⟩ := Prod.mk.inj received
        exact asking_of_failure ⟨rfl, rfl, id⟩ rfl rfl
  | ok frame =>
      simp only [receive] at received
      split at received
      · next stopped =>
          exact asking_of_part [] received idle ⟨rfl, rfl, id⟩ rfl
            (by simp [Turn.demand, Turn.arrival?, stopped])
      · next running =>
          exact asking_of_handle received idle receiving ⟨rfl, rfl, id⟩ rfl
            (by simp [Turn.demand, Turn.arrival?, running])

theorem step_of_asking (ofReader : event.isOfReader = true)
    (possible : step conversation state event = some (next, effects)) :
    ∃ now, Asking conversation next ⟨state, event, effects⟩ now := by
  cases event with
  | supervisorStarts | supervisorStops | stopFollowed | closerWakes | closed outcome |
    writerStarts | writerTakes | writerResumes | writerQuits | sent outcome =>
      simp [Event.isOfReader] at ofReader
  | readerStarts =>
      obtain ⟨starting, rfl, rfl⟩ := step_starts possible
      refine asking_of_all conversation.greeting ⟨rfl, rfl, id⟩ (.inl rfl) rfl rfl ?_
      simp [starting, Reader.due, Turn.demand]
  | ponged outcome =>
      obtain ⟨ponging, rfl, rfl | ⟨failure, rfl⟩⟩ := step_ponged possible
      · refine asking_of_all [] ⟨rfl, rfl, id⟩ (.inl rfl) rfl rfl ?_
        simp [ponging, Reader.due, Turn.demand, Turn.arrival?]
      · exact asking_of_failure ⟨rfl, rfl, id⟩ rfl rfl
  | called outcome =>
      obtain ⟨save, memory, requests, calling, ends⟩ := step_called possible
      rcases ends with ⟨point, rfl, -, rfl, rfl⟩ | ⟨rfl, -, rfl, rfl⟩ | ⟨failure, rfl, rfl, rfl⟩
      · refine asking_of_all [] ⟨rfl, rfl, id⟩ (.inl rfl) rfl rfl ?_
        simp [calling, Reader.due, Turn.demand, Turn.arrival?]
      · refine asking_of_all requests ⟨rfl, rfl, id⟩ (.inl rfl) rfl rfl ?_
        simp [calling, Reader.due, Turn.demand, Turn.arrival?]
      · exact asking_of_failure ⟨rfl, rfl, id⟩ rfl rfl
  | received outcome =>
      simp only [step] at possible
      split at possible
      · next receiving => exact asking_of_received receiving (Option.some.inj possible)
      · cases possible
  | saved outcome =>
      simp only [step] at possible
      split at possible
      · next memory requests done saving =>
          cases possible
          refine asking_of_all requests ⟨rfl, rfl, id⟩ (.inl rfl) rfl rfl ?_
          simp [saving, Reader.due, Turn.demand, Turn.arrival?]
      · cases possible
        exact asking_of_failure ⟨rfl, rfl, id⟩ rfl rfl
      · cases possible
        refine asking_of_all [] ⟨rfl, rfl, fun _ => rfl⟩ (.inr (.inl rfl)) rfl rfl ?_
        simp [*, Reader.due, Turn.demand, Turn.arrival?, State.endReader]
      · cases possible
        exact asking_of_failure ⟨rfl, rfl, id⟩ rfl rfl
      · cases possible

end

end Connection

end NodeBridge
