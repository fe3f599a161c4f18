import Mathlib.Data.List.Forall2
import NodeBridge.Proofs.Connection.Reader

/-!
Two connections in lockstep. Where two texts tell the same and a conversation makes the same
of both, the whole connection does: what is possible in one run is possible in the other, and
the runs differ in nothing but the contents of what they hand over.
-/

namespace NodeBridge

section

variable {Memory Delivery : Type} (Same : Memory → Memory → Prop)
  (Like : Delivery → Delivery → Prop) (Tells : Bytes → Bytes → Prop)

inductive Reaction.Alike : Reaction Memory Delivery → Reaction Memory Delivery → Prop where
  | proceed {memory other : Memory} (same : Same memory other) (requests : List Request) :
      Alike (.proceed memory requests) (.proceed other requests)
  | deliver {delivery twin : Delivery} {memory other : Memory} (like : Like delivery twin)
      (save : Option Point) (same : Same memory other) (requests : List Request) :
      Alike (.deliver delivery save memory requests) (.deliver twin save other requests)
  | refuse (failure : Failure) : Alike (.refuse failure) (.refuse failure)

/-- A conversation that makes the same of texts that tell the same. -/
structure Conversation.Respects (conversation : Conversation Memory Delivery) : Prop where
  memory : Same conversation.memory conversation.memory
  count : ∀ {memory other}, Same memory other →
    Same (conversation.count memory) (conversation.count other)
  react : ∀ {memory other content twin}, Same memory other → Tells content twin →
    (conversation.react memory content).Alike Same Like (conversation.react other twin)
  parting : ∀ {memory other}, Same memory other →
    conversation.parting memory = conversation.parting other

inductive Frame.Alike (Tells : Bytes → Bytes → Prop) : Frame → Frame → Prop where
  | text {content twin : Bytes} (tells : Tells content twin) :
      Alike Tells (.text content) (.text twin)
  | binary (content : Bytes) : Alike Tells (.binary content) (.binary content)
  | ping (content : Bytes) : Alike Tells (.ping content) (.ping content)
  | pong (content : Bytes) : Alike Tells (.pong content) (.pong content)
  | close : Alike Tells .close .close

theorem Frame.alike_refl {Tells : Bytes → Bytes → Prop}
    (reflexive : ∀ content, Tells content content) (frame : Frame) :
    frame.Alike Tells frame := by
  cases frame with
  | text content => exact .text (reflexive content)
  | binary content => exact .binary content
  | ping content => exact .ping content
  | pong content => exact .pong content
  | close => exact .close

end

namespace Connection

section

variable {Memory Delivery : Type} (Same : Memory → Memory → Prop)
  (Like : Delivery → Delivery → Prop) (Tells : Bytes → Bytes → Prop)

inductive Reader.Alike : Reader Memory → Reader Memory → Prop where
  | starting : Alike .starting .starting
  | receiving : Alike .receiving .receiving
  | ponging : Alike .ponging .ponging
  | calling (save : Option Point) {memory other : Memory} (same : Same memory other)
      (requests : List Request) :
      Alike (.calling save memory requests) (.calling save other requests)
  | saving {memory other : Memory} (same : Same memory other) (requests : List Request) :
      Alike (.saving memory requests) (.saving other requests)
  | parting (context : Option Failure) : Alike (.parting context) (.parting context)
  | ended : Alike .ended .ended

/-- States that differ in what the conversation remembers, and there in nothing that counts. -/
structure State.Alike (state other : State Memory) : Prop where
  stopped : state.stopped = other.stopped
  failure : state.failure = other.failure
  supervisor : state.supervisor = other.supervisor
  closer : state.closer = other.closer
  writer : state.writer = other.writer
  queue : state.queue = other.queue
  memory : Same state.memory other.memory
  reader : state.reader.Alike Same other.reader

/-- Events that differ at most in the contents of a text that arrives. -/
inductive Event.Alike : Event → Event → Prop where
  | same (event : Event) : Alike event event
  | received {frame twin : Frame} (alike : frame.Alike Tells twin) :
      Alike (.received (.ok frame)) (.received (.ok twin))

inductive Effect.Alike : Effect Delivery → Effect Delivery → Prop where
  | same (effect : Effect Delivery) : Alike effect effect
  | call {delivery twin : Delivery} (like : Like delivery twin) :
      Alike (.call delivery) (.call twin)

/-- What a step leads to and what it does are alike. -/
def Outcomes (first second : State Memory × List (Effect Delivery)) : Prop :=
  first.1.Alike Same second.1 ∧ List.Forall₂ (Effect.Alike Like) first.2 second.2

variable {Same Like Tells} {conversation : Conversation Memory Delivery}
  {state other : State Memory} {event twin : Event}

theorem effects_alike (effects : List (Effect Delivery)) :
    List.Forall₂ (Effect.Alike Like) effects effects :=
  List.forall₂_same.mpr fun effect _ => .same effect

theorem alike_start (respects : conversation.Respects Same Like Tells) (stored : List Point) :
    (State.start conversation stored).Alike Same (.start conversation stored) :=
  ⟨rfl, rfl, rfl, rfl, rfl, rfl, respects.memory, .starting⟩

theorem alike_fail (alike : state.Alike Same other) (failure : Failure) :
    (state.fail failure).Alike Same (other.fail failure) :=
  { alike with
    stopped := rfl
    failure := by simp only [State.fail, alike.failure] }

theorem alike_end_reader (alike : state.Alike Same other) :
    state.endReader.Alike Same other.endReader :=
  { alike with stopped := rfl, reader := .ended }

theorem alike_fail_reader (alike : state.Alike Same other) (failure : Failure) :
    (state.failReader failure).Alike Same (other.failReader failure) :=
  alike_end_reader (alike_fail alike failure)

theorem alike_put (alike : state.Alike Same other) (requests : List Request) :
    (state.put conversation requests).Alike Same (other.put conversation requests) :=
  { alike with queue := by simp only [State.put, alike.queue] }

theorem alike_listen (alike : state.Alike Same other) {memory kept : Memory}
    (same : Same memory kept) (requests : List Request) :
    (state.listen conversation memory requests).Alike Same
      (other.listen conversation kept requests) :=
  { alike_put alike requests with memory := same, reader := .receiving }

theorem outcomes_part (respects : conversation.Respects Same Like Tells)
    (alike : state.Alike Same other) (context : Option Failure) :
    Outcomes Same Like (part conversation state context) (part conversation other context) := by
  unfold part
  rw [respects.parting alike.memory]
  cases conversation.parting other.memory with
  | none => exact ⟨alike_end_reader alike, .nil⟩
  | some point => exact ⟨{ alike with reader := .parting context }, effects_alike _⟩

theorem outcomes_handle (respects : conversation.Respects Same Like Tells)
    (alike : state.Alike Same other) {frame told : Frame} (tells : frame.Alike Tells told) :
    Outcomes Same Like (handle conversation state frame) (handle conversation other told) := by
  cases tells with
  | binary content => exact ⟨alike, effects_alike _⟩
  | pong content => exact ⟨alike, .nil⟩
  | ping content => exact ⟨{ alike with reader := .ponging }, effects_alike _⟩
  | close => exact outcomes_part respects alike none
  | @text content told tells =>
      have reacts := respects.react alike.memory tells
      simp only [handle]
      generalize conversation.react state.memory content = first at reacts ⊢
      generalize conversation.react other.memory told = second at reacts ⊢
      cases reacts with
      | proceed same requests => exact ⟨alike_listen alike same requests, .nil⟩
      | deliver like save same requests =>
          exact ⟨{ alike with reader := .calling save same requests }, .cons (.call like) .nil⟩
      | refuse failure => exact ⟨alike_fail_reader alike failure, .nil⟩

theorem outcomes_receive (respects : conversation.Respects Same Like Tells)
    (alike : state.Alike Same other) {frame told : Frame} (tells : frame.Alike Tells told) :
    Outcomes Same Like (receive conversation state (.ok frame))
      (receive conversation other (.ok told)) := by
  have noted : State.Alike Same { state with memory := conversation.count state.memory }
      { other with memory := conversation.count other.memory } :=
    { alike with memory := respects.count alike.memory }
  simp only [receive]
  by_cases stopped : other.stopped = true
  · rw [if_pos (alike.stopped.trans stopped), if_pos stopped]
    exact outcomes_part respects noted none
  · rw [if_neg (alike.stopped ▸ stopped), if_neg stopped]
    exact outcomes_handle respects (alike_put noted conversation.refill) tells

theorem outcomes_receive_failure (respects : conversation.Respects Same Like Tells)
    (alike : state.Alike Same other) (failure : Failure) :
    Outcomes Same Like (receive conversation state (.error failure))
      (receive conversation other (.error failure)) := by
  have closing : state.isClosing = other.isClosing := by
    simp only [State.isClosing, alike.closer]
  simp only [receive]
  by_cases closes : other.isClosing = true
  · rw [if_pos (closing.trans closes), if_pos closes]
    exact outcomes_part respects alike (some failure)
  · rw [if_neg (closing ▸ closes), if_neg closes]
    exact ⟨alike_fail_reader alike _, .nil⟩

/-- A step that is the same in both runs and leaves the memory and the reader alone. -/
theorem outcomes_of_same {memory kept : Memory} {reader twin : Reader Memory}
    (same : Same memory kept) (readers : reader.Alike Same twin) {stopped : Bool}
    {failure : Option Failure} {supervisor : Supervisor} {closer : Closer} {writer : Writer}
    {queue : List Request} {effects : List (Effect Delivery)} :
    Option.Rel (Outcomes Same Like)
      (some (⟨stopped, failure, supervisor, closer, writer, reader, queue, memory⟩, effects))
      (some (⟨stopped, failure, supervisor, closer, writer, twin, queue, kept⟩, effects)) :=
  .some ⟨⟨rfl, rfl, rfl, rfl, rfl, rfl, same, readers⟩, effects_alike effects⟩

theorem outcomes_of_others (alike : state.Alike Same other) (others : event.isOfReader = false) :
    Option.Rel (Outcomes Same Like) (step conversation state event)
      (step conversation other event) := by
  obtain ⟨stopped, failure, supervisor, closer, writer, reader, queue, memory⟩ := state
  obtain ⟨_, _, _, _, _, twin, _, kept⟩ := other
  have same : Same memory kept := alike.memory
  have readers : reader.Alike Same twin := alike.reader
  obtain ⟨rfl, rfl, rfl, rfl, rfl, rfl, -, -⟩ := alike
  cases event with
  | readerStarts | received outcome | ponged outcome | called outcome | saved outcome =>
      cases others
  | supervisorStarts | supervisorStops | closerWakes | writerQuits | writerTakes =>
      simp only [step]
      split
      · exact outcomes_of_same same readers
      · exact .none
  | stopFollowed =>
      simp only [step]
      split
      · exact .none
      · exact outcomes_of_same same readers
  | closed outcome =>
      simp only [step]
      split
      · cases outcome <;> exact outcomes_of_same same readers
      · exact .none
  | writerStarts =>
      simp only [step]
      split
      · exact outcomes_of_same same readers
      · exact outcomes_of_same same readers
      · exact .none
  | writerResumes =>
      simp only [step]
      split
      · split <;> exact outcomes_of_same same readers
      · exact .none
  | sent outcome =>
      simp only [step]
      split
      · exact outcomes_of_same same readers
      · cases closer <;> exact outcomes_of_same same readers
      · exact .none

theorem outcomes_of_reader (respects : conversation.Respects Same Like Tells)
    (reflexive : ∀ content, Tells content content) (alike : state.Alike Same other)
    (ofReader : event.isOfReader = true) :
    Option.Rel (Outcomes Same Like) (step conversation state event)
      (step conversation other event) := by
  obtain ⟨stopped, failure, supervisor, closer, writer, reader, queue, memory⟩ := state
  obtain ⟨halted, failed, watcher, shutter, hand, twin, line, kept⟩ := other
  have readers : reader.Alike Same twin := alike.reader
  cases event with
  | supervisorStarts | supervisorStops | stopFollowed | closerWakes | closed outcome |
    writerStarts | writerTakes | writerResumes | writerQuits | sent outcome => cases ofReader
  | readerStarts =>
      simp only [step]
      cases readers with
      | starting => exact .some ⟨alike_listen alike alike.memory _, .nil⟩
      | receiving | ponging | calling | saving | parting | ended => exact .none
  | received outcome =>
      simp only [step]
      cases readers with
      | receiving =>
          cases outcome with
          | error failure => exact .some (outcomes_receive_failure respects alike failure)
          | ok frame =>
              exact .some (outcomes_receive respects alike (Frame.alike_refl reflexive frame))
      | starting | ponging | calling | saving | parting | ended => exact .none
  | ponged outcome =>
      simp only [step]
      cases readers with
      | ponging =>
          cases outcome with
          | ok _ => exact .some ⟨{ alike with reader := .receiving }, .nil⟩
          | error failure => exact .some ⟨alike_fail_reader alike _, .nil⟩
      | starting | receiving | calling | saving | parting | ended => exact .none
  | called outcome =>
      simp only [step]
      cases readers with
      | calling save same requests =>
          cases outcome with
          | error failure => cases save <;> exact .some ⟨alike_fail_reader alike _, .nil⟩
          | ok _ =>
              cases save with
              | none => exact .some ⟨alike_listen alike same requests, .nil⟩
              | some point =>
                  exact .some ⟨{ alike with reader := .saving same requests }, effects_alike _⟩
      | starting | receiving | ponging | saving | parting | ended => exact .none
  | saved outcome =>
      simp only [step]
      cases readers with
      | saving same requests =>
          cases outcome with
          | ok _ => exact .some ⟨alike_listen alike same requests, .nil⟩
          | error failure => exact .some ⟨alike_fail_reader alike _, .nil⟩
      | parting context =>
          cases outcome with
          | ok _ => exact .some ⟨alike_end_reader alike, .nil⟩
          | error failure => exact .some ⟨alike_fail_reader alike _, .nil⟩
      | starting | receiving | ponging | calling | ended => exact .none

/-- What is possible in one of two states that are alike is possible in the other. -/
theorem outcomes_step (respects : conversation.Respects Same Like Tells)
    (reflexive : ∀ content, Tells content content) (alike : state.Alike Same other)
    (tells : event.Alike Tells twin) :
    Option.Rel (Outcomes Same Like) (step conversation state event)
      (step conversation other twin) := by
  cases tells with
  | same event =>
      cases ofReader : event.isOfReader with
      | true => exact outcomes_of_reader respects reflexive alike ofReader
      | false => exact outcomes_of_others alike ofReader
  | received tells =>
      obtain ⟨stopped, failure, supervisor, closer, writer, reader, queue, memory⟩ := state
      obtain ⟨halted, failed, watcher, shutter, hand, twin, line, kept⟩ := other
      have readers : reader.Alike Same twin := alike.reader
      simp only [step]
      cases readers with
      | receiving => exact .some (outcomes_receive respects alike tells)
      | starting | ponging | calling | saving | parting | ended => exact .none

/-- Runs over events that are alike go the same way and do the same, turn by turn. -/
theorem outcomes_run (respects : conversation.Respects Same Like Tells)
    (reflexive : ∀ content, Tells content content) {events twins : List Event}
    (tells : List.Forall₂ (Event.Alike Tells) events twins) (alike : state.Alike Same other) :
    Option.Rel (fun first second => first.1.Alike Same second.1 ∧
        List.Forall₂ (fun turn told => List.Forall₂ (Effect.Alike Like) turn.2 told.2)
          first.2 second.2)
      (run conversation state events) (run conversation other twins) := by
  induction tells generalizing state other with
  | nil => exact .some ⟨alike, .nil⟩
  | @cons event twin events twins tells rest induction =>
      have stepped := outcomes_step respects reflexive alike tells
      simp only [run]
      generalize step conversation state event = first at stepped ⊢
      generalize step conversation other twin = second at stepped ⊢
      cases stepped with
      | none => exact .none
      | @some first second outcomes =>
          have later := induction outcomes.1
          simp only [Option.bind_eq_bind, Option.bind_some]
          generalize run conversation first.1 events = ran at later ⊢
          generalize run conversation second.1 twins = followed at later ⊢
          cases later with
          | none => exact .none
          | some later => exact .some ⟨later.1, .cons outcomes.2 later.2⟩

/-! What can be seen of a run from outside. -/

def Effect.outline : Effect Delivery → Effect Unit
  | .log message => .log message
  | .send request => .send request
  | .pong content => .pong content
  | .call _ => .call ()
  | .save point => .save point
  | .close => .close

/-- All that a run shows apart from the contents of what it hands over: what was done in each
turn, the failure of the connection, and whether it has ended. -/
def outline (ran : State Memory × List (Event × List (Effect Delivery))) :
    List (List (Effect Unit)) × Option Failure × Bool :=
  (ran.2.map fun turn => turn.2.map Effect.outline, ran.1.failure, ran.1.ended)

theorem outline_of_effects {effects told : List (Effect Delivery)}
    (alike : List.Forall₂ (Effect.Alike Like) effects told) :
    effects.map Effect.outline = told.map Effect.outline := by
  induction alike with
  | nil => rfl
  | cons first rest induction =>
      rw [List.map_cons, List.map_cons, induction]
      cases first <;> rfl

theorem outline_of_turns {turns told : List (Event × List (Effect Delivery))}
    (alike : List.Forall₂ (fun turn other => List.Forall₂ (Effect.Alike Like) turn.2 other.2)
      turns told) :
    (turns.map fun turn => turn.2.map Effect.outline) =
      told.map fun turn => turn.2.map Effect.outline := by
  induction alike with
  | nil => rfl
  | cons first rest induction =>
      rw [List.map_cons, List.map_cons, induction, outline_of_effects first]

theorem ended_of_alike (alike : state.Alike Same other) : state.ended = other.ended := by
  have readers := alike.reader
  have reader : state.readerEnded = other.readerEnded := by
    unfold State.readerEnded
    generalize state.reader = first at readers ⊢
    generalize other.reader = second at readers ⊢
    cases readers <;> rfl
  simp only [State.ended, alike.supervisor, alike.closer, alike.writer, reader]

/-- Runs over events that are alike cannot be told apart but by what they hand over. -/
theorem outline_of_run (respects : conversation.Respects Same Like Tells)
    (reflexive : ∀ content, Tells content content) {events twins : List Event}
    (tells : List.Forall₂ (Event.Alike Tells) events twins) (stored : List Point) :
    (run conversation (.start conversation stored) twins).map outline =
      (run conversation (.start conversation stored) events).map outline := by
  have lockstep := outcomes_run respects reflexive tells (alike_start respects stored)
  generalize run conversation (.start conversation stored) events = first at lockstep ⊢
  generalize run conversation (.start conversation stored) twins = second at lockstep ⊢
  cases lockstep with
  | none => rfl
  | some alike =>
      simp only [Option.map_some, outline, outline_of_turns alike.2, alike.1.failure,
        ended_of_alike alike.1]

end

end Connection

end NodeBridge
