import NodeBridge.Proofs.CommandLine.Following
import NodeBridge.Proofs.Follower.Cadence
import NodeBridge.Proofs.Follower.Reconnecting

/-!
How many blocks are printed by a command that follows the chain up to a limit. The limit is looked
at after each block, but all that comes of it is that the session may be asked to stop. Texts that
arrive until its line is stopped are printed as before, and they may be any number.
-/

namespace NodeBridge

namespace Listing

variable {frame : Bytes}

/-- The lines that a frame is shown in. A text with line breaks in it counts as one. -/
def frameLines (frame : Bytes) : List String :=
  match note frame with
  | .ok note => note.line?.toList
  | .error _ => []

/-- Whether a frame is shown as a block. -/
def showsBlock (frame : Bytes) : Bool :=
  match note frame with
  | .ok note => note.isBlock
  | .error _ => false

theorem exists_block_of_shows (shows : showsBlock frame = true) :
    ∃ line, note frame = .ok (.block line) := by
  unfold showsBlock at shows
  cases read : note frame with
  | error error =>
      rw [read] at shows
      cases shows
  | ok note =>
      rw [read] at shows
      cases note with
      | block line => exact ⟨line, rfl⟩
      | unsupported | handshake line | rollback line | idle => cases shows

end Listing

open Listing (frameLines showsBlock)

namespace Printer

variable {wanted : Int} {printer : Printer} {frame : Bytes}

/-- A printer has seen enough exactly from the wanted number of blocks on. -/
def Heeds (wanted : Int) (printer : Printer) : Prop :=
  printer.enough = true ↔ wanted ≤ printer.seen

theorem lines_hear : (printer.hear wanted frame).1.lines = printer.lines ++ frameLines frame := by
  unfold hear frameLines
  cases Listing.note frame with
  | ok note => rfl
  | error error => exact (List.append_nil _).symm

theorem seen_hear :
    (printer.hear wanted frame).1.seen = printer.seen + (showsBlock frame).toNat := by
  unfold hear showsBlock
  cases Listing.note frame with
  | ok note => cases note <;> rfl
  | error error => rfl

theorem reached_iff (limited : 1 ≤ wanted) (seen : Nat) :
    reached wanted seen = true ↔ wanted ≤ seen := by
  have wants : wanted ≠ 0 := by omega
  simp [reached, wants]

theorem heeds_hear (limited : 1 ≤ wanted) (heeds : printer.Heeds wanted) :
    (printer.hear wanted frame).1.Heeds wanted := by
  unfold hear
  cases Listing.note frame with
  | error error => exact heeds
  | ok note =>
      unfold Heeds at heeds ⊢
      have more := reached_iff limited (printer.seen + 1)
      have same := reached_iff limited printer.seen
      cases note <;>
        simp only [printNote, Listing.Note.isBlock, Listing.Note.isStep, Bool.or_eq_true,
          Bool.true_and, Bool.false_and, Bool.false_eq_true, if_true, if_false, or_false, heeds,
          more, same] <;> omega

end Printer

namespace Following

open Session (Event Effect)

section

variable {settings : Session.Options} {options : ChainFollower.Options} {wanted : Int}
  {following next last : Following ChainFollower.Memory} {event : Event} {events : List Event}
  {printer : Printer}

theorem lines_printed (frames : List Bytes) :
    (printed (Printer.hear wanted) printer frames).lines =
      printer.lines ++ frames.flatMap frameLines := by
  induction frames generalizing printer with
  | nil => exact (List.append_nil _).symm
  | cons frame frames induction =>
      rw [printed_cons, induction, Printer.lines_hear, List.flatMap_cons, List.append_assoc]

theorem seen_printed (frames : List Bytes) :
    (printed (Printer.hear wanted) printer frames).seen =
      printer.seen + frames.countP showsBlock := by
  induction frames generalizing printer with
  | nil => rfl
  | cons frame frames induction =>
      rw [printed_cons, induction, Printer.seen_hear, List.countP_cons]
      cases showsBlock frame with
      | true => simp only [Bool.toNat_true, if_true, Nat.add_assoc, Nat.add_comm 1]
      | false => rfl

theorem heeds_printed (limited : 1 ≤ wanted) (heeds : printer.Heeds wanted) (frames : List Bytes) :
    (printed (Printer.hear wanted) printer frames).Heeds wanted := by
  induction frames generalizing printer with
  | nil => exact heeds
  | cons frame frames induction => exact induction (Printer.heeds_hear limited heeds)

/-- What a step of a follower hands over is the text that arrives, or nothing. -/
theorem sublist_of_step {effects : List (Effect Bytes)}
    {session : Session.State ChainFollower.Memory}
    (possible : Session.step settings (ChainFollower.conversation options) following.session event =
      some (session, effects)) :
    (Session.deliveries effects).Sublist (following.arriving? event).toList := by
  rcases Session.deliveries_of_move (Session.move_of_step possible) with
    ⟨-, nothing⟩ | ⟨connection, moved, later, done, connected, rfl, moves, same⟩
  · rw [nothing]
    exact List.nil_sublist _
  · rw [same]
    rcases Connection.deliveries_of_step moves with
      nothing | ⟨content, delivery, save, memory, requests, rfl, running, alone, reacts⟩
    · rw [nothing]
      exact List.nil_sublist _
    · have given := (ChainFollower.deliver_of_react reacts).1
      have open_ : following.session.isStopped = false := by
        simpa only [Session.State.isStopped, connected] using running
      simp [alone, given, arriving?, open_]

/-- A text that arrives on a line that is not stopped is handed over, unless early blocks are
withheld. -/
theorem deliveries_of_open {effects : List (Effect Bytes)} {content : Bytes}
    {session : Session.State ChainFollower.Memory} {before : List Event}
    (open_ : options.minSlot ≤ 0)
    (came : run settings (ChainFollower.conversation options) (Printer.hear wanted) .start before =
      some following)
    (possible : Session.step settings (ChainFollower.conversation options) following.session event =
      some (session, effects))
    (arrives : following.arriving? event = some content) :
    Session.deliveries effects = [content] := by
  obtain ⟨rfl, stops⟩ := event_of_arriving arrives
  obtain ⟨told, ran⟩ := session_of_run came
  rcases Session.deliveries_of_move (Session.move_of_step possible) with
    ⟨other, -⟩ | ⟨connection, moved, later, done, connected, same, moves, hands⟩
  · cases other
  · cases same
    obtain ⟨stored, past, reached, -⟩ := Session.reached_of_connected ran connected
    have running : connection.stopped = false := by
      simpa only [Session.State.isStopped, connected] using stops
    have given : ChainFollower.isWithheld options.minSlot (Connection.handed past) content =
        false := by
      simp [ChainFollower.isWithheld, Int.not_lt.mpr open_]
    rw [hands, ChainFollower.effects_of_text reached running moves, given]
    rfl

/-- Texts that were printed of those that arrived: all of them, in order, unless early blocks are
withheld. -/
structure Heard (options : ChainFollower.Options) (arrived heard : List Bytes) : Prop where
  among : heard.Sublist arrived
  all : options.minSlot ≤ 0 → heard = arrived

theorem heard_of_step {effects : List (Effect Bytes)}
    {session : Session.State ChainFollower.Memory} {before : List Event}
    (came : run settings (ChainFollower.conversation options) (Printer.hear wanted) .start before =
      some following)
    (possible : Session.step settings (ChainFollower.conversation options) following.session event =
      some (session, effects)) :
    Heard options (following.arriving? event).toList (Session.deliveries effects) where
  among := sublist_of_step possible
  all open_ := by
    cases arrives : following.arriving? event with
    | none =>
        have among := sublist_of_step possible
        rw [arrives] at among
        exact List.sublist_nil.mp among
    | some content => exact deliveries_of_open open_ came possible arrives

/-- What is printed in a run are texts that arrive on lines that are not stopped. -/
theorem printed_of_run {before : List Event}
    (came : run settings (ChainFollower.conversation options) (Printer.hear wanted) .start before =
      some following)
    (ran : run settings (ChainFollower.conversation options) (Printer.hear wanted) following
      events = some last) :
    ∃ heard, Heard options (arrivals settings (ChainFollower.conversation options)
        (Printer.hear wanted) following events) heard ∧
      last.printer = printed (Printer.hear wanted) following.printer heard := by
  induction events generalizing following before with
  | nil =>
      cases ran
      exact ⟨[], ⟨List.nil_sublist _, fun _ => rfl⟩, rfl⟩
  | cons event events induction =>
      obtain ⟨next, possible, ran⟩ := step_of_run ran
      obtain ⟨-, effects, moved, now⟩ := step_cases possible
      have comes : run settings (ChainFollower.conversation options) (Printer.hear wanted) .start
          (before ++ [event]) = some next := by
        rw [run_append came, run_cons possible]
        rfl
      obtain ⟨later, heard, told⟩ := induction comes ran
      obtain ⟨among, all⟩ := heard_of_step came moved
      refine ⟨Session.deliveries effects ++ later, ?_, ?_⟩
      · rw [arrivals_cons possible]
        exact ⟨among.append heard.among, fun open_ => by rw [all open_, heard.all open_]⟩
      · rw [told, now, printed_append]

/-! The limit. -/

/-- The printer knows when it has seen enough, and the session is asked to stop only then. -/
structure Heedful (wanted : Int) (following : Following ChainFollower.Memory) : Prop where
  heeds : following.printer.Heeds wanted
  patient : following.session.stopping = true → wanted ≤ following.printer.seen

theorem heedful_start (limited : 1 ≤ wanted) :
    (start : Following ChainFollower.Memory).Heedful wanted where
  heeds := by
    constructor
    · intro enough
      cases enough
    · intro early
      have nothing : wanted ≤ 0 := early
      omega
  patient := nofun

theorem seen_of_step
    (possible : step settings (ChainFollower.conversation options) (Printer.hear wanted) following
      event = some next) :
    following.printer.seen ≤ next.printer.seen ∧
      next.printer.seen ≤ following.printer.seen + 1 := by
  obtain ⟨-, effects, moved, told⟩ := step_cases possible
  rw [told, seen_printed]
  have few : (Session.deliveries effects).length ≤ 1 :=
    (sublist_of_step moved).length_le.trans Option.length_toList_le
  have count := List.countP_le_length (p := showsBlock) (l := Session.deliveries effects)
  omega

theorem heedful_of_step (limited : 1 ≤ wanted) (heedful : following.Heedful wanted)
    (possible : step settings (ChainFollower.conversation options) (Printer.hear wanted) following
      event = some next) : next.Heedful wanted := by
  have grows := (seen_of_step possible).1
  obtain ⟨permitted, effects, moved, told⟩ := step_cases possible
  refine ⟨told ▸ heeds_printed limited heedful.heeds _, ?_⟩
  intro stopping
  have enough : wanted ≤ following.printer.seen := by
    rcases Session.stopping_of_step moved stopping with before | rfl
    · exact heedful.patient before
    · exact heedful.heeds.mp permitted
  omega

/-- A run that goes beyond the limit goes through a state in which it is just reached. -/
theorem split_at_limit
    (ran : run settings (ChainFollower.conversation options) (Printer.hear wanted) following
      events = some last)
    (short : following.printer.seen ≤ wanted) (reached : wanted ≤ last.printer.seen) :
    ∃ before after middle, events = before ++ after ∧
      run settings (ChainFollower.conversation options) (Printer.hear wanted) following before =
        some middle ∧
      run settings (ChainFollower.conversation options) (Printer.hear wanted) middle after =
        some last ∧
      (middle.printer.seen : Int) = wanted := by
  induction events generalizing following with
  | nil =>
      cases ran
      exact ⟨[], [], last, rfl, rfl, rfl, Int.le_antisymm short reached⟩
  | cons event events induction =>
      by_cases there : (following.printer.seen : Int) = wanted
      · exact ⟨[], event :: events, following, rfl, rfl, ran, there⟩
      · obtain ⟨next, possible, later⟩ := step_of_run ran
        have grows := (seen_of_step possible).2
        obtain ⟨before, after, middle, rfl, first, second, just⟩ := induction later (by omega)
        exact ⟨event :: before, after, middle, rfl, by rw [run_cons possible, first], second, just⟩

/-- Once the session leaves, nothing more is printed. -/
theorem printer_of_leaving (waits : settings.delay ≠ 0) (leaving : following.session.Leaving)
    (ran : run settings (ChainFollower.conversation options) (Printer.hear wanted) following
      events = some last) : last.printer = following.printer := by
  induction events generalizing following with
  | nil =>
      cases ran
      rfl
  | cons event events induction =>
      obtain ⟨next, possible, later⟩ := step_of_run ran
      obtain ⟨-, effects, moved, told⟩ := step_cases possible
      obtain ⟨still, nothing⟩ := Session.leaving_of_step waits leaving moved
      rw [induction still later, told, nothing]
      rfl

/-! Texts that are printed as they come. -/

/-- The reader listens on a line that is not stopped, and it withholds nothing. -/
def Listens (following : Following ChainFollower.Memory) : Prop :=
  ∃ connection, following.session.phase = .connected connection ∧
    connection.reader = .receiving ∧ connection.stopped = false ∧
    connection.memory.filtering = false

theorem step_of_connection {moved : Connection.Event}
    {connection later : Connection.State ChainFollower.Memory}
    {done : List (Connection.Effect Bytes)}
    (connected : following.session.phase = .connected connection)
    (permitted : Session.permits following.session moved = true)
    (heard : following.permits (.connection moved) = true)
    (possible : Connection.step (ChainFollower.conversation options) connection moved =
      some (later, done))
    (awake : later.readerEnded = false) :
    step settings (ChainFollower.conversation options) (Printer.hear wanted) following
        (.connection moved) =
      some ((done.map Effect.connection).foldl (takeEffect (Printer.hear wanted))
        { following with session := { following.session with phase := .connected later } }) := by
  have goes : later.ended = false := by simp [Connection.State.ended, awake]
  simp [step, heard, Session.step_of_connection connected permitted possible goes]

/-- The reader hands a text over, and the printer took it. -/
def Calls (following : Following ChainFollower.Memory) : Prop :=
  following.taken = .ok () ∧ ∃ connection save memory,
    following.session.phase = .connected connection ∧
      connection.reader = .calling save memory [] ∧ connection.stopped = false ∧
      memory.filtering = false

variable (settings options wanted) in
/-- A text that can be shown is handed over and printed. -/
theorem calls_of_listens {frame : Bytes} {note : Listing.Note} (listens : following.Listens)
    (shown : Listing.note frame = .ok note) :
    ∃ next, step settings (ChainFollower.conversation options) (Printer.hear wanted) following
        (.connection (.received (.ok (.text frame)))) = some next ∧ next.Calls ∧
      next.session.stopping = following.session.stopping ∧
      next.printer = following.printer.printNote wanted note := by
  obtain ⟨connection, connected, receiving, running, open_⟩ := listens
  have reacts : (ChainFollower.conversation options).react
      ((ChainFollower.conversation options).count connection.memory) frame =
        ChainFollower.deliver options
          ((ChainFollower.conversation options).count connection.memory) frame := by
    simp [ChainFollower.conversation, ChainFollower.react, open_]
  have hears : Printer.hear wanted following.printer frame =
      (following.printer.printNote wanted note, .ok ()) := by
    simp [Printer.hear, shown]
  refine ⟨_, step_of_connection connected rfl rfl
    (Connection.step_text_of_deliver receiving running reacts) rfl, ?_⟩
  simp only [List.map_cons, List.map_nil, List.foldl_cons, List.foldl_nil, takeEffect, hears]
  exact ⟨⟨rfl, _, _, _, rfl, rfl, running, open_⟩, trivial, trivial⟩

variable (settings options wanted) in
/-- A text that was printed is taken, its point is saved if there is one to save, and the reader
listens again. -/
theorem listens_of_calls (calls : following.Calls) :
    ∃ events next, run settings (ChainFollower.conversation options) (Printer.hear wanted)
        following events = some next ∧ next.Listens ∧
      next.session.stopping = following.session.stopping ∧
      next.printer = following.printer := by
  obtain ⟨taken, connection, save, memory, connected, calling, running, open_⟩ := calls
  have heard : following.permits (.connection (.called (.ok ()))) = true := by
    simp [permits, taken, Except.isOk, Except.toBool]
  cases save with
  | none =>
      have takes : Connection.step (ChainFollower.conversation options) connection
          (.called (.ok ())) =
            some (connection.listen (ChainFollower.conversation options) memory [], []) := by
        simp [Connection.step, calling]
      exact ⟨[_], _, run_cons (step_of_connection connected rfl heard takes rfl),
        ⟨_, rfl, rfl, running, open_⟩, rfl, rfl⟩
  | some point =>
      have takes : Connection.step (ChainFollower.conversation options) connection
          (.called (.ok ())) =
            some ({ connection with reader := .saving memory [] }, [.save point]) := by
        simp [Connection.step, calling]
      exact ⟨[_, _], _, (run_cons (step_of_connection connected rfl heard takes rfl)).trans
          (run_cons (step_of_connection rfl rfl rfl
            (show Connection.step _ _ (.saved (.ok ())) = some (_, _) from rfl) rfl)),
        ⟨_, rfl, rfl, running, open_⟩, rfl, rfl⟩

variable (settings options wanted) in
/-- Texts that are shown as blocks are printed, one after the other, whatever was printed before
and whether or not the session was asked to stop. -/
theorem prints_blocks {frames : List Bytes} (shown : ∀ frame ∈ frames, showsBlock frame = true)
    (listens : following.Listens) :
    ∃ events next, run settings (ChainFollower.conversation options) (Printer.hear wanted)
        following events = some next ∧ next.Listens ∧
      next.session.stopping = following.session.stopping ∧
      next.printer = printed (Printer.hear wanted) following.printer frames := by
  induction frames generalizing following with
  | nil => exact ⟨[], following, rfl, listens, rfl, rfl⟩
  | cons frame frames induction =>
      obtain ⟨line, read⟩ := Listing.exists_block_of_shows (shown frame List.mem_cons_self)
      obtain ⟨middle, arrives, calls, kept, told⟩ :=
        calls_of_listens settings options wanted listens read
      obtain ⟨taking, later, taken, again, stays, same⟩ :=
        listens_of_calls settings options wanted calls
      obtain ⟨events, last, ran, finally_, still, all⟩ :=
        induction (fun frame member => shown frame (List.mem_cons_of_mem _ member)) again
      refine ⟨.connection (.received (.ok (.text frame))) :: (taking ++ events), last, ?_,
        finally_, still.trans (stays.trans kept), ?_⟩
      · rw [run_cons arrives, run_append taken, ran]
      · rw [all, same, told, printed_cons]
        simp [Printer.hear, read]

variable (wanted) in
theorem listens_of_start (open_ : options.minSlot ≤ 0) (loads : settings.loads = true) :
    ∃ events next, run settings (ChainFollower.conversation options) (Printer.hear wanted) .start
        events = some next ∧ next.Listens ∧ next.printer = .start := by
  have dials : step settings (ChainFollower.conversation options) (Printer.hear wanted) .start
      (.dialed (.ok ())) = some ⟨⟨.loading, false⟩, .start, .ok ()⟩ := by
    simp [step, permits, start, Session.step, Session.State.initial, loads, takeEffect]
  -- The store holds the origin, so the session begins whatever points it was given.
  have clear : (ChainFollower.conversation options).obstacle? [.origin] = none :=
    ChainFollower.no_obstacle_to_origin rfl
  have loaded : Session.step settings (ChainFollower.conversation options) ⟨.loading, false⟩
      (.loaded (.ok [.origin])) =
        some (Session.connect (ChainFollower.conversation options) ⟨.loading, false⟩ [.origin], []) :=
    Session.step_of_load rfl clear
  have begins : step settings (ChainFollower.conversation options) (Printer.hear wanted)
      ⟨⟨.loading, false⟩, .start, .ok ()⟩ (.loaded (.ok [.origin])) =
        some ⟨Session.connect (ChainFollower.conversation options) ⟨.loading, false⟩ [.origin],
          .start, .ok ()⟩ := by
    simp [step, permits, loaded]
  exact ⟨[_, _, .connection .readerStarts], _, (run_cons dials).trans (run_cons begins),
    ⟨_, rfl, rfl, rfl, decide_eq_false (Int.not_lt.mpr open_)⟩, rfl⟩

theorem stops_of_listens (listens : following.Listens) (enough : following.printer.enough = true) :
    ∃ next, step settings (ChainFollower.conversation options) (Printer.hear wanted) following
        .stopRequested = some next ∧ next.Listens ∧ next.session.stopping = true ∧
      next.printer = following.printer := by
  obtain ⟨connection, connected, receiving, running, open_⟩ := listens
  refine ⟨⟨{ following.session with stopping := true }, following.printer, following.taken⟩, ?_,
    ⟨connection, connected, receiving, running, open_⟩, rfl, rfl⟩
  simp [step, permits, enough, Session.step, connected]

variable (settings) in
/-- Blocks are printed although the session was asked to stop as soon as it could be. -/
theorem prints_after_stop (limited : 1 ≤ wanted) (open_ : options.minSlot ≤ 0)
    (loads : settings.loads = true) {first rest : List Bytes}
    (shown : ∀ frame ∈ first ++ rest, showsBlock frame = true) (long : wanted ≤ first.length) :
    ∃ events more middle last,
      run settings (ChainFollower.conversation options) (Printer.hear wanted) .start events =
        some middle ∧
      middle.printer = printed (Printer.hear wanted) .start first ∧
      run settings (ChainFollower.conversation options) (Printer.hear wanted) middle
        (.stopRequested :: more) = some last ∧
      last.session.stopping = true ∧
      last.printer = printed (Printer.hear wanted) .start (first ++ rest) := by
  obtain ⟨opening, opened, begins, listens, fresh⟩ := listens_of_start wanted open_ loads
  obtain ⟨events, middle, ran, waiting, -, early⟩ := prints_blocks settings options wanted
    (fun frame member => shown frame (List.mem_append_left _ member)) listens
  have whole := (run_append begins).trans ran
  rw [fresh] at early
  have count : middle.printer.seen = first.length := by
    rw [early, seen_printed, List.countP_eq_length.mpr
      fun frame member => shown frame (List.mem_append_left _ member)]
    exact Nat.zero_add _
  have heedful := holds_of_run (heedful_of_step limited) (heedful_start limited) whole
  have enough : middle.printer.enough = true := heedful.heeds.mpr (by rw [count]; exact long)
  obtain ⟨asked, stops, heard, stopping, same⟩ := stops_of_listens waiting enough
  obtain ⟨more, last, later, -, still, late⟩ := prints_blocks settings options wanted
    (fun frame member => shown frame (List.mem_append_right _ member)) heard
  refine ⟨opening ++ events, more, middle, last, whole, early, (run_cons stops).trans later,
    still.trans stopping, ?_⟩
  rw [late, same, early, printed_append]

end

end Following

namespace Program

open Following

/-- What a command that follows the chain prints when it was given a limit. It is asked to stop
only once so many blocks were printed. What it prints from then on are texts that arrive before
its line is stopped, and once it was asked to stop and its line is stopped, nothing more is
printed. But they may be any number: all blocks that arrive before the line is stopped are
printed, even if the session is asked to stop as soon as the limit is reached. -/
theorem printed_beyond_limit (settings : Settings) (options : ChainFollower.Options)
    {wanted : Int} (limited : 1 ≤ wanted) :
    (∀ events last, (followRun settings options wanted).after .start events = some last →
      (last.session.stopping = true → wanted ≤ last.printer.seen) ∧
      ∃ heard, Heard options ((followRun settings options wanted).arrivals .start events) heard ∧
        last.printer.lines = heard.flatMap frameLines ∧
        last.printer.seen = heard.countP showsBlock) ∧
    (∀ events last, (followRun settings options wanted).after .start events = some last →
      wanted ≤ last.printer.seen → ∃ before after middle heard, events = before ++ after ∧
        (followRun settings options wanted).after .start before = some middle ∧
        (followRun settings options wanted).after middle after = some last ∧
        middle.printer.seen = wanted ∧
        Heard options ((followRun settings options wanted).arrivals middle after) heard ∧
        last.printer.lines = middle.printer.lines ++ heard.flatMap frameLines ∧
        last.printer.seen = wanted + heard.countP showsBlock) ∧
    (∀ middle events last, (followRun settings options wanted).after middle events = some last →
      middle.session.Leaving → last.printer = middle.printer) ∧
    (options.minSlot ≤ 0 → ∀ first rest : List Bytes,
      (∀ frame ∈ first ++ rest, showsBlock frame = true) → wanted ≤ first.length →
        ∃ events more middle last,
          (followRun settings options wanted).after .start events = some middle ∧
          middle.printer.lines = first.flatMap frameLines ∧
          (followRun settings options wanted).after middle (.stopRequested :: more) = some last ∧
          last.printer.lines = (first ++ rest).flatMap frameLines ∧
          last.printer.seen = (first ++ rest).length) := by
  refine ⟨?_, ?_, ?_, ?_⟩
  · intro events last ran
    have heedful := holds_of_run (heedful_of_step limited) (heedful_start limited) ran
    obtain ⟨heard, among, told⟩ := printed_of_run (show run _ _ _ start [] = some _ from rfl) ran
    refine ⟨heedful.patient, heard, among, ?_, ?_⟩
    · rw [told, lines_printed]
      rfl
    · rw [told, seen_printed]
      exact Nat.zero_add _
  · intro events last ran reached
    have short : ((start : Following ChainFollower.Memory).printer.seen : Int) ≤ wanted := by
      show (0 : Int) ≤ wanted
      omega
    obtain ⟨before, after, middle, whole, first, second, just⟩ := split_at_limit ran short reached
    obtain ⟨heard, among, told⟩ := printed_of_run first second
    refine ⟨before, after, middle, heard, whole, first, second, just, among, ?_, ?_⟩
    · rw [told, lines_printed]
    · rw [told, seen_printed, Int.natCast_add, just]
  · intro middle events last ran leaving
    exact printer_of_leaving (show Program.reconnectDelay ≠ 0 by decide) leaving ran
  · intro open_ first rest shown long
    obtain ⟨events, more, middle, last, ran, early, later, -, late⟩ :=
      prints_after_stop (Program.sessionOptions settings true) limited open_ rfl shown long
    refine ⟨events, more, middle, last, ran, ?_, later, ?_, ?_⟩
    · rw [early, lines_printed]
      rfl
    · rw [late, lines_printed]
      rfl
    · rw [late, seen_printed, List.countP_eq_length.mpr shown]
      exact Nat.zero_add _

/-- A frame that tells of a block whose slot is its height. -/
def blockFrame (id slot : String) : Bytes :=
  Text.encodeUtf8 ("\x7b\"method\":\"nextBlock\",\"result\":\x7b\"direction\":\"forward\"," ++
    "\"block\":\x7b\"type\":\"praos\",\"era\":\"babbage\",\"id\":\"" ++ id ++
    "\",\"height\":" ++ slot ++ ",\"slot\":" ++ slot ++ "\x7d\x7d\x7d")

/-- A follower that withholds nothing. -/
def openOptions : ChainFollower.Options := ⟨50, 10000, 0, []⟩

/-- Two blocks wait on the line when the reader begins to listen. The session is asked to stop
while the first of them is taken, and it ends in good order. -/
def twoBlocksWaiting : List Session.Event :=
  [.dialed (.ok ()), .loaded (.ok []), .connection .supervisorStarts, .connection .writerStarts,
    .connection (.sent (.ok ())), .connection .readerStarts,
    .connection (.received (.ok (.text (blockFrame "aa" "1")))), .stopRequested,
    .connection (.called (.ok ())),
    .connection (.received (.ok (.text (blockFrame "bb" "2")))), .connection .stopFollowed,
    .connection (.called (.ok ())), .connection .closerWakes, .connection (.closed (.ok ())),
    .connection (.received (.ok .close)), .connection (.saved (.ok ())),
    .connection .writerQuits, .connection .supervisorStops]

theorem run_two_blocks :
    ((followRun .usual openOptions 1).after .start twoBlocksWaiting).map
        (fun last => (last.printer.lines, last.session.stopping, last.session.isEnded)) =
      some (["slot=1 id=aa block=1", "slot=2 id=bb block=2"], true, true) := by
  decide +kernel

theorem note_of_first :
    Listing.note (blockFrame "aa" "1") = .ok (.block "slot=1 id=aa block=1") := by
  decide +kernel

theorem printed_beyond_limit_of_two_blocks :
    (∃ last heard, (followRun .usual openOptions 1).after .start twoBlocksWaiting = some last ∧
      last.session.stopping = true ∧ 1 ≤ last.printer.seen ∧
      Heard openOptions ((followRun .usual openOptions 1).arrivals .start twoBlocksWaiting) heard ∧
      last.printer.lines = heard.flatMap frameLines) ∧
    ∃ events more middle last,
      (followRun .usual openOptions 1).after .start events = some middle ∧
      middle.printer.lines = ["slot=1 id=aa block=1"] ∧
      (followRun .usual openOptions 1).after middle (.stopRequested :: more) = some last ∧
      last.printer.lines = ["slot=1 id=aa block=1", "slot=1 id=aa block=1"] := by
  obtain ⟨last, ran, ended⟩ := Option.map_eq_some_iff.mp run_two_blocks
  have stopping : last.session.stopping = true := (Prod.mk.inj (Prod.mk.inj ended).2).1
  obtain ⟨accounts, -, -, beyond⟩ :=
    printed_beyond_limit .usual openOptions (show (1 : Int) ≤ 1 by decide)
  obtain ⟨patient, heard, among, lines, -⟩ := accounts twoBlocksWaiting last ran
  have enough := patient stopping
  have shown : ∀ frame ∈ [blockFrame "aa" "1"] ++ [blockFrame "aa" "1"],
      showsBlock frame = true := by
    simp [showsBlock, note_of_first, Listing.Note.isBlock]
  obtain ⟨events, more, middle, final, first, early, second, late, -⟩ :=
    beyond (by decide) [blockFrame "aa" "1"] [blockFrame "aa" "1"] shown (by decide)
  refine ⟨⟨last, heard, ran, stopping, by omega, among, lines⟩,
    events, more, middle, final, first, ?_, second, ?_⟩
  · simp [early, frameLines, note_of_first, Listing.Note.line?]
  · simp [late, frameLines, note_of_first, Listing.Note.line?]

/-- With a limit of one block two are printed before the session is over, since both were waiting
on the line. And one block is printed in two lines if there is a line break in its id. -/
theorem two_blocks_over_limit :
    ((followRun .usual openOptions 1).after .start twoBlocksWaiting).map
        (fun last => (last.printer.lines, last.session.stopping, last.session.isEnded)) =
      some (["slot=1 id=aa block=1", "slot=2 id=bb block=2"], true, true) ∧
    frameLines (blockFrame "aa\\nslot=2 id=bb" "1") =
      ["slot=1 id=aa" ++ "\n" ++ "slot=2 id=bb block=1"] :=
  ⟨run_two_blocks, by decide +kernel⟩

end Program

end NodeBridge
