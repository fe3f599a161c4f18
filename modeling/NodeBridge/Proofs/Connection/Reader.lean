import NodeBridge.Proofs.Connection.Run

/-!
What the events of a connection do to its reader. Only five kinds of event move the reader,
and only they hand deliveries over or save points; each of them has one statement here that
says all that it can do. Later proofs go by these statements and not by the step itself.
-/

namespace NodeBridge.Connection

/-- Whether an event belongs to the reader. -/
def Event.isOfReader : Event → Bool
  | .readerStarts | .received _ | .ponged _ | .called _ | .saved _ => true
  | _ => false

def textOf? : Except Failure Frame → Option Bytes
  | .ok (.text content) => some content
  | _ => none

section

variable {Memory Delivery : Type}

def Effect.delivery? : Effect Delivery → Option Delivery
  | .call delivery => some delivery
  | _ => none

def Effect.point? : Effect Delivery → Option Point
  | .save point => some point
  | _ => none

/-- Whether the reader will not listen any more. -/
def Reader.isDone : Reader Memory → Bool
  | .parting _ | .ended => true
  | _ => false

def Reader.isCalling : Reader Memory → Bool
  | .calling _ _ _ => true
  | _ => false

/-- The memory with which the reader goes on listening. -/
def State.outlook (state : State Memory) : Memory :=
  match state.reader with
  | .calling _ memory _ | .saving memory _ => memory
  | _ => state.memory

/-- Whether the conversation ends in good order with what came from the line: with a close
frame, with anything once the connection is stopped, or with a failure of a line that is
being closed. -/
def State.endsWith (state : State Memory) : Except Failure Frame → Bool
  | .error _ => state.isClosing
  | .ok .close => true
  | .ok _ => state.stopped

variable {conversation : Conversation Memory Delivery} {state next : State Memory}
  {event : Event} {effects : List (Effect Delivery)}

section

variable (requests : List Request) (failure : Failure) (memory : Memory)

@[simp] theorem memory_put :
    (State.put conversation state requests).memory = state.memory := rfl

@[simp] theorem reader_listen :
    (State.listen conversation state memory requests).reader = .receiving := rfl

@[simp] theorem memory_listen :
    (State.listen conversation state memory requests).memory = memory := rfl

@[simp] theorem reader_fail_reader : (state.failReader failure).reader = .ended := rfl

end

/-- The other duties leave the reader alone, and they neither hand over nor save. -/
theorem step_of_others (others : event.isOfReader = false)
    (possible : step conversation state event = some (next, effects)) :
    next.reader = state.reader ∧ next.memory = state.memory ∧
      effects.filterMap Effect.delivery? = [] ∧ effects.filterMap Effect.point? = [] := by
  cases event with
  | readerStarts | received outcome | ponged outcome | called outcome | saved outcome =>
      simp [Event.isOfReader] at others
  | supervisorStarts | supervisorStops | stopFollowed | closerWakes | writerStarts |
    writerTakes | writerResumes | writerQuits =>
      simp only [step] at possible
      split at possible <;> grind [Effect.delivery?, Effect.point?]
  | closed outcome | sent outcome =>
      simp only [step] at possible
      split at possible <;> grind [Effect.delivery?, Effect.point?, State.fail]

theorem step_starts (possible : step conversation state .readerStarts = some (next, effects)) :
    state.reader = .starting ∧ effects = [] ∧
      next = state.listen conversation state.memory conversation.greeting := by
  simp only [step] at possible
  split at possible
  · next starting =>
      simp only [Option.some.injEq, Prod.mk.injEq] at possible
      exact ⟨starting, possible.2.symm, possible.1.symm⟩
  · cases possible

theorem step_ponged {outcome : Except Failure Unit}
    (possible : step conversation state (.ponged outcome) = some (next, effects)) :
    state.reader = .ponging ∧ effects = [] ∧
      (next = { state with reader := .receiving } ∨
        ∃ failure, next = state.failReader failure) := by
  simp only [step] at possible
  split at possible
  · next ponging =>
      simp only [Option.some.injEq, Prod.mk.injEq] at possible
      exact ⟨ponging, possible.2.symm, .inl possible.1.symm⟩
  · next ponging =>
      simp only [Option.some.injEq, Prod.mk.injEq] at possible
      exact ⟨ponging, possible.2.symm, .inr ⟨_, possible.1.symm⟩⟩
  · cases possible

/-- The end of a call: it was taken and a point is to be saved, it was taken and nothing is
to be saved, or it was refused. -/
theorem step_called {outcome : Except Failure Unit}
    (possible : step conversation state (.called outcome) = some (next, effects)) :
    ∃ save memory requests, state.reader = .calling save memory requests ∧
      ((∃ point, outcome = .ok () ∧ save = some point ∧ effects = [.save point] ∧
          next = { state with reader := .saving memory requests }) ∨
        (outcome = .ok () ∧ save = none ∧ effects = [] ∧
          next = state.listen conversation memory requests) ∨
        ∃ failure, outcome = .error failure ∧ effects = [] ∧
          next = state.failReader (conversation.delivering.failed failure)) := by
  simp only [step] at possible
  split at possible
  · next save memory requests point calling =>
      simp only [Option.some.injEq, Prod.mk.injEq] at possible
      exact ⟨_, _, _, calling, .inl ⟨_, rfl, rfl, possible.2.symm, possible.1.symm⟩⟩
  · next calling =>
      simp only [Option.some.injEq, Prod.mk.injEq] at possible
      exact ⟨_, _, _, calling, .inr (.inl ⟨rfl, rfl, possible.2.symm, possible.1.symm⟩)⟩
  · next calling =>
      simp only [Option.some.injEq, Prod.mk.injEq] at possible
      exact ⟨_, _, _, calling, .inr (.inr ⟨_, rfl, possible.2.symm, possible.1.symm⟩)⟩
  · cases possible

theorem step_saved {outcome : Except Failure Unit}
    (possible : step conversation state (.saved outcome) = some (next, effects)) :
    effects = [] ∧
      ((∃ memory requests, state.reader = .saving memory requests ∧
          (next = state.listen conversation memory requests ∨
            ∃ failure, next = state.failReader failure)) ∨
        ∃ context, state.reader = .parting context ∧ next.reader = .ended) := by
  simp only [step] at possible
  split at possible
  · next saving =>
      simp only [Option.some.injEq, Prod.mk.injEq] at possible
      exact ⟨possible.2.symm, .inl ⟨_, _, saving, .inl possible.1.symm⟩⟩
  · next saving =>
      simp only [Option.some.injEq, Prod.mk.injEq] at possible
      exact ⟨possible.2.symm, .inl ⟨_, _, saving, .inr ⟨_, possible.1.symm⟩⟩⟩
  · next parting =>
      simp only [Option.some.injEq, Prod.mk.injEq] at possible
      exact ⟨possible.2.symm, .inr ⟨_, parting, by rw [← possible.1]; rfl⟩⟩
  · next parting =>
      simp only [Option.some.injEq, Prod.mk.injEq] at possible
      exact ⟨possible.2.symm, .inr ⟨_, parting, by rw [← possible.1]; rfl⟩⟩
  · cases possible

/-- All that a listening reader can do about what came from the line: the conversation ends
in good order, it is broken off, a frame other than a text passes, or a text is dealt with as
the conversation reacts to it. -/
inductive Receipt (conversation : Conversation Memory Delivery) (state : State Memory)
    (outcome : Except Failure Frame) (next : State Memory)
    (effects : List (Effect Delivery)) : Prop where
  | ends (memory : Memory) (ends : state.endsWith outcome = true)
      (which : memory = state.memory ∨ memory = conversation.count state.memory)
      (done : next.reader.isDone = true)
      (saves : effects = (conversation.parting memory).toList.map .save)
  | breaks (goes : state.endsWith outcome = false) (other : textOf? outcome = none)
      (finished : next.reader = .ended) (nothing : effects = [])
  | passes (goes : state.endsWith outcome = false) (other : textOf? outcome = none)
      (reader : next.reader = .receiving ∨ next.reader = .ponging)
      (kept : next.memory = conversation.count state.memory)
      (calls : effects.filterMap Effect.delivery? = [])
      (saves : effects.filterMap Effect.point? = [])
  | proceeds (content : Bytes) (memory : Memory) (requests : List Request)
      (goes : state.endsWith outcome = false) (text : outcome = .ok (.text content))
      (reacts : conversation.react (conversation.count state.memory) content =
        .proceed memory requests)
      (reader : next.reader = .receiving) (kept : next.memory = memory)
      (nothing : effects = [])
  | delivers (content : Bytes) (delivery : Delivery) (save : Option Point) (memory : Memory)
      (requests : List Request) (goes : state.endsWith outcome = false)
      (text : outcome = .ok (.text content))
      (reacts : conversation.react (conversation.count state.memory) content =
        .deliver delivery save memory requests)
      (reader : next.reader = .calling save memory requests) (call : effects = [.call delivery])
  | refuses (content : Bytes) (failure : Failure) (goes : state.endsWith outcome = false)
      (text : outcome = .ok (.text content))
      (reacts : conversation.react (conversation.count state.memory) content = .refuse failure)
      (finished : next.reader = .ended) (nothing : effects = [])

theorem receipt_of_part {outcome : Except Failure Frame} (parted : State Memory)
    (context : Option Failure) (ends : state.endsWith outcome = true)
    (which : parted.memory = state.memory ∨ parted.memory = conversation.count state.memory) :
    Receipt conversation state outcome (part conversation parted context).1
      (part conversation parted context).2 := by
  refine .ends parted.memory ends which ?_ ?_
  all_goals
    unfold part
    cases conversation.parting parted.memory with
    | none => rfl
    | some point => rfl

theorem receipt_of_handle {frame : Frame} {noted : State Memory}
    (open_ : frame ≠ .close) (running : state.stopped = false)
    (receiving : noted.reader = .receiving)
    (counted : noted.memory = conversation.count state.memory) :
    Receipt conversation state (.ok frame) (handle conversation noted frame).1
      (handle conversation noted frame).2 := by
  cases frame with
  | close => exact absurd rfl open_
  | binary content => exact .passes running rfl (.inl receiving) counted rfl rfl
  | ping content => exact .passes running rfl (.inr rfl) counted rfl rfl
  | pong content => exact .passes running rfl (.inl receiving) counted rfl rfl
  | text content =>
      cases reacts : conversation.react (conversation.count state.memory) content with
      | proceed memory requests =>
          simp only [handle, counted, reacts]
          exact .proceeds content memory requests running rfl reacts rfl rfl rfl
      | deliver delivery save memory requests =>
          simp only [handle, counted, reacts]
          exact .delivers content delivery save memory requests running rfl reacts rfl rfl
      | refuse failure =>
          simp only [handle, counted, reacts]
          exact .refuses content failure running rfl reacts rfl rfl

theorem step_received {outcome : Except Failure Frame}
    (possible : step conversation state (.received outcome) = some (next, effects)) :
    state.reader = .receiving ∧ Receipt conversation state outcome next effects := by
  simp only [step] at possible
  split at possible
  · next receiving =>
      have received : receive conversation state outcome = (next, effects) :=
        Option.some.inj possible
      have first : next = (receive conversation state outcome).1 := by rw [received]
      have second : effects = (receive conversation state outcome).2 := by rw [received]
      refine ⟨receiving, ?_⟩
      rw [first, second]
      cases outcome with
      | error failure =>
          unfold receive
          cases closing : state.isClosing with
          | true => exact receipt_of_part state (some failure) closing (.inl rfl)
          | false => exact .breaks closing rfl rfl rfl
      | ok frame =>
          unfold receive
          cases stopped : state.stopped with
          | true =>
              have ends : state.endsWith (.ok frame) = true := by
                cases frame <;> simp [State.endsWith, stopped]
              exact receipt_of_part _ none ends (.inr rfl)
          | false =>
              by_cases close : frame = .close
              · subst close
                exact receipt_of_part _ none rfl (.inr rfl)
              · exact receipt_of_handle close stopped receiving rfl
  · cases possible

/-! Steps that a listening reader takes. -/

theorem step_text_of_proceed {content : Bytes} {memory : Memory} {requests : List Request}
    (receiving : state.reader = .receiving) (running : state.stopped = false)
    (reacts : conversation.react (conversation.count state.memory) content =
      .proceed memory requests) :
    step conversation state (.received (.ok (.text content))) =
      some ((state.put conversation conversation.refill).listen conversation memory requests,
        []) := by
  cases state
  simp only at receiving running
  subst receiving running
  simp only [step, receive, Bool.false_eq_true, if_false, handle, memory_put, reacts]
  rfl

theorem step_text_of_deliver {content : Bytes} {delivery : Delivery} {save : Option Point}
    {memory : Memory} {requests : List Request}
    (receiving : state.reader = .receiving) (running : state.stopped = false)
    (reacts : conversation.react (conversation.count state.memory) content =
      .deliver delivery save memory requests) :
    step conversation state (.received (.ok (.text content))) =
      some ({ state.put conversation conversation.refill with
        memory := conversation.count state.memory,
        reader := .calling save memory requests }, [.call delivery]) := by
  cases state
  simp only at receiving running
  subst receiving running
  simp only [step, receive, Bool.false_eq_true, if_false, handle, memory_put, reacts]
  rfl

theorem reached_close_of_parting {stored : List Point} {past : List (Turn Memory Delivery)}
    {point : Point} (reached : Reached conversation stored past state)
    (receiving : state.reader = .receiving) (running : state.stopped = false)
    (parting : conversation.parting (conversation.count state.memory) = some point) :
    ∃ next, Reached conversation stored
      (past ++ [⟨state, .received (.ok .close), [.save point]⟩]) next := by
  refine ⟨{ state.put conversation conversation.refill with
    memory := conversation.count state.memory, reader := .parting none }, reached.step ?_⟩
  clear reached
  cases state
  simp only at receiving running
  subst receiving running
  simp only [step, receive, Bool.false_eq_true, if_false, handle, part, memory_put, parting]
  rfl

end

end NodeBridge.Connection
