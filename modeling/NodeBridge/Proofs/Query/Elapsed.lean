import Mathlib.Algebra.BigOperators.Group.List.Basic
import Mathlib.Algebra.Order.BigOperators.Group.List
import Mathlib.Algebra.Order.Ring.Int
import NodeBridge.Proofs.Document.Read
import NodeBridge.Query.Era

/-!
The time up to a slot as a sum over the eras that begin before it. An era whose document names no
end is open and has no last slot. It is read with slot zero for its end, so for every positive
slot it counts as if it had run backwards from its start.
-/

namespace NodeBridge

/-- Whether the document of an era leaves out where the era ends. -/
def EraSummary.isOpen : Json → Bool
  | .object fields => (Json.get fields "end").isNull
  | _ => true

/-- An era as its document tells of it; an open era has no end. -/
structure EraSpan where
  start : Int
  finish : Option Int
  /-- The length of a slot in milliseconds. -/
  slotLength : Int
deriving DecidableEq, Repr

namespace EraSpan

def ofDocument (document : Json) (era : EraSummary) : EraSpan :=
  { start := era.start.slot
    finish := if EraSummary.isOpen document then none else some era.finish.slot
    slotLength := era.parameters.slotLength }

/-- The slot up to which a span is counted. -/
def reach (span : EraSpan) (slot : Int) : Int :=
  match span.finish with
  | some finish => min slot finish
  | none => slot

/-- The milliseconds of a span that lie before a slot. -/
def elapsed (span : EraSpan) (slot : Int) : Int :=
  if span.start < slot then (span.reach slot - span.start) * span.slotLength else 0

/-- The milliseconds that an open span lacks when slot zero is taken for its end. -/
def lost (span : EraSpan) (slot : Int) : Int :=
  if span.finish = none ∧ 0 < slot then max slot span.start * span.slotLength else 0

/-- A span that does not end before it starts, with slots that take no negative time. -/
structure IsForward (span : EraSpan) : Prop where
  ordered : ∀ finish ∈ span.finish, span.start ≤ finish
  lengthens : 0 ≤ span.slotLength

/-- The spans of the eras that were read from some documents. -/
def ofDocuments (documents : List Json) (eras : List EraSummary) : List EraSpan :=
  List.zipWith ofDocument documents eras

/-- The time that all spans together have taken by a slot. -/
def totalElapsed (spans : List EraSpan) (slot : Int) : Int :=
  (spans.map fun span => span.elapsed slot).sum

/-- What reading an open end as slot zero takes away from that time. -/
def totalLost (spans : List EraSpan) (slot : Int) : Int :=
  (spans.map fun span => span.lost slot).sum

section

variable {span : EraSpan} {spans : List EraSpan} {slot later : Int}

theorem start_le_reach (forward : span.IsForward) (begun : span.start < slot) :
    span.start ≤ span.reach slot := by
  unfold reach
  cases ends : span.finish with
  | none => exact begun.le
  | some finish => exact le_min begun.le (forward.ordered finish ends)

theorem reach_mono (earlier : slot ≤ later) : span.reach slot ≤ span.reach later := by
  unfold reach
  cases span.finish with
  | none => exact earlier
  | some finish => exact min_le_min_right finish earlier

theorem elapsed_nonneg (forward : span.IsForward) (slot : Int) : 0 ≤ span.elapsed slot := by
  unfold elapsed
  split
  · next begun =>
      exact mul_nonneg (sub_nonneg.mpr (start_le_reach forward begun)) forward.lengthens
  · exact le_rfl

theorem elapsed_mono (forward : span.IsForward) (earlier : slot ≤ later) :
    span.elapsed slot ≤ span.elapsed later := by
  by_cases begun : span.start < slot
  · have still : span.start < later := lt_of_lt_of_le begun earlier
    rw [elapsed, elapsed, if_pos begun, if_pos still]
    have reaches : span.reach slot - span.start ≤ span.reach later - span.start :=
      sub_le_sub_right (reach_mono earlier) _
    exact mul_le_mul_of_nonneg_right reaches forward.lengthens
  · rw [elapsed, if_neg begun]
    exact elapsed_nonneg forward later

theorem lost_nonneg (forward : span.IsForward) (slot : Int) : 0 ≤ span.lost slot := by
  unfold lost
  split
  · next lacking =>
      exact mul_nonneg (le_max_of_le_left lacking.2.le) forward.lengthens
  · exact le_rfl

theorem lost_eq_zero_iff :
    span.lost slot = 0 ↔ (span.finish = none → slot ≤ 0 ∨ span.slotLength = 0) := by
  unfold lost
  split
  · next lacking =>
      have positive : max slot span.start ≠ 0 := (lt_max_of_lt_left lacking.2).ne'
      simp only [lacking.1, mul_eq_zero, positive, false_or, forall_const]
      exact (or_iff_right (not_le.mpr lacking.2)).symm
  · next whole =>
      simp only [true_iff]
      intro open_
      exact .inl (not_lt.mp fun positive => whole ⟨open_, positive⟩)

theorem total_elapsed_nonneg (forward : ∀ span ∈ spans, span.IsForward) (slot : Int) :
    0 ≤ totalElapsed spans slot := by
  apply List.sum_nonneg
  intro time member
  obtain ⟨span, held, rfl⟩ := List.mem_map.mp member
  exact elapsed_nonneg (forward span held) slot

theorem total_elapsed_mono (forward : ∀ span ∈ spans, span.IsForward)
    (earlier : slot ≤ later) : totalElapsed spans slot ≤ totalElapsed spans later := by
  apply List.sum_le_sum
  intro span member
  exact elapsed_mono (forward span member) earlier

theorem total_lost_eq_zero_iff (forward : ∀ span ∈ spans, span.IsForward) :
    totalLost spans slot = 0 ↔
      ∀ span ∈ spans, span.finish = none → slot ≤ 0 ∨ span.slotLength = 0 := by
  constructor
  · intro nothing span member
    have nonneg : ∀ time ∈ spans.map fun span => span.lost slot, 0 ≤ time := by
      intro time listed
      obtain ⟨other, held, rfl⟩ := List.mem_map.mp listed
      exact lost_nonneg (forward other held) slot
    exact lost_eq_zero_iff.mp (List.all_zero_of_le_zero_le_of_sum_eq_zero nonneg nothing
      (List.mem_map_of_mem member))
  · intro whole
    apply List.sum_eq_zero
    intro time listed
    obtain ⟨span, held, rfl⟩ := List.mem_map.mp listed
    exact lost_eq_zero_iff.mpr (whole span held)

end

end EraSpan

namespace EraSummary

variable {document : Json} {documents : List Json} {era : EraSummary} {eras : List EraSummary}

/-- An open era is read with slot zero for its end. -/
theorem finish_of_open (reads : ofJson document = .ok era) (open_ : isOpen document = true) :
    era.finish.slot = 0 := by
  simp only [ofJson, bind_eq_ok] at reads
  obtain ⟨fields, object, start, -, finish, ends, parameters, -, same⟩ := reads
  cases same
  have missing : Json.get fields "end" = .null := by
    cases document with
    | null =>
        cases object
        rfl
    | object members =>
        cases object
        simp only [isOpen] at open_
        cases held : Json.get fields "end" <;> simp_all [Json.isNull]
    | _ => cases object
  rw [missing] at ends
  cases ends
  rfl

/-- An era counts for as much as its span, less what is lost of an open span. -/
theorem elapsed_of_document (reads : ofJson document = .ok era)
    (forward : (EraSpan.ofDocument document era).IsForward) (slot : Int) :
    era.elapsed slot = (EraSpan.ofDocument document era).elapsed slot -
      (EraSpan.ofDocument document era).lost slot := by
  cases open_ : isOpen document with
  | true =>
      simp only [elapsed, finish_of_open reads open_, EraSpan.elapsed, EraSpan.lost, EraSpan.reach,
        EraSpan.ofDocument, open_, if_true, true_and]
      split
      · next positive =>
          split
          · next begun =>
              rw [max_eq_left begun.le, ← sub_mul, sub_sub_cancel_left, zero_sub]
          · next ahead =>
              rw [max_eq_right (not_lt.mp ahead), zero_sub, zero_sub, neg_mul]
      · exact (sub_zero _).symm
  | false =>
      have ordered : era.start.slot ≤ era.finish.slot :=
        forward.ordered era.finish.slot (by simp [EraSpan.ofDocument, open_])
      simp only [elapsed, EraSpan.elapsed, EraSpan.lost, EraSpan.reach, EraSpan.ofDocument, open_,
        Bool.false_eq_true, if_false, reduceCtorEq, false_and, sub_zero]
      by_cases over_ : era.finish.slot < slot
      · have begun : era.start.slot < slot := lt_of_le_of_lt ordered over_
        rw [if_pos over_, if_pos begun, min_eq_right over_.le]
      · rw [if_neg over_, min_eq_left (not_lt.mp over_)]

theorem elapsed_milliseconds_cons (era : EraSummary) (eras : List EraSummary) (slot : Int) :
    elapsedMilliseconds (era :: eras) slot = era.elapsed slot + elapsedMilliseconds eras slot := by
  have general : ∀ (eras : List EraSummary) (start : Int),
      eras.foldl (fun total era => total + era.elapsed slot) start =
        start + eras.foldl (fun total era => total + era.elapsed slot) 0 := by
    intro eras
    induction eras with
    | nil =>
        intro start
        exact (add_zero start).symm
    | cons era eras induction =>
        intro start
        rw [List.foldl_cons, List.foldl_cons, induction, induction (0 + _), zero_add, add_assoc]
  rw [elapsedMilliseconds, List.foldl_cons, zero_add, general]
  rfl

/-- The time up to a slot is that of all spans, less what is lost of those that are open. -/
theorem elapsed_milliseconds_of_documents
    (reads : Decode.each ofJson documents = .ok eras)
    (forward : ∀ span ∈ EraSpan.ofDocuments documents eras, span.IsForward) (slot : Int) :
    elapsedMilliseconds eras slot =
      EraSpan.totalElapsed (EraSpan.ofDocuments documents eras) slot -
        EraSpan.totalLost (EraSpan.ofDocuments documents eras) slot := by
  induction documents generalizing eras with
  | nil =>
      cases reads
      rfl
  | cons document documents induction =>
      simp only [Decode.each, bind_eq_ok] at reads
      obtain ⟨era, first, later, rest, same⟩ := reads
      cases same
      simp only [EraSpan.ofDocuments, List.zipWith_cons_cons, List.forall_mem_cons] at forward
      have others := induction rest forward.2
      rw [elapsed_milliseconds_cons, elapsed_of_document first forward.1, others]
      simp only [EraSpan.totalElapsed, EraSpan.totalLost, EraSpan.ofDocuments,
        List.zipWith_cons_cons, List.map_cons, List.sum_cons]
      exact sub_add_sub_comm _ _ _ _

/-- The time up to a slot is the sum over the eras of what lies before it, as long as every open
era has slots that take no time or the slot is not positive. Otherwise the sum is missed by what
an open era would have taken from slot zero on. The sum itself is never negative and never falls.
The eras need not follow upon each other. -/
theorem elapsed_sums_up_iff (reads : Decode.each ofJson documents = .ok eras)
    (forward : ∀ span ∈ EraSpan.ofDocuments documents eras, span.IsForward) :
    (∀ slot, elapsedMilliseconds eras slot =
        EraSpan.totalElapsed (EraSpan.ofDocuments documents eras) slot ↔
      ∀ span ∈ EraSpan.ofDocuments documents eras,
        span.finish = none → slot ≤ 0 ∨ span.slotLength = 0) ∧
      (∀ slot, elapsedMilliseconds eras slot =
        EraSpan.totalElapsed (EraSpan.ofDocuments documents eras) slot -
          EraSpan.totalLost (EraSpan.ofDocuments documents eras) slot) ∧
      (∀ slot, 0 ≤ EraSpan.totalElapsed (EraSpan.ofDocuments documents eras) slot) ∧
      ∀ slot later, slot ≤ later →
        EraSpan.totalElapsed (EraSpan.ofDocuments documents eras) slot ≤
          EraSpan.totalElapsed (EraSpan.ofDocuments documents eras) later := by
  have told := elapsed_milliseconds_of_documents reads forward
  refine ⟨fun slot => ?_, told, EraSpan.total_elapsed_nonneg forward,
    fun _ _ => EraSpan.total_elapsed_mono forward⟩
  rw [told slot, sub_eq_self]
  exact EraSpan.total_lost_eq_zero_iff forward

def boundDocument (slot : Int) : Json :=
  .object [("time", .object [("seconds", .int slot)]), ("slot", .int slot), ("epoch", .int 0)]

def parametersDocument (milliseconds : Int) : Json :=
  .object [("epochLength", .int 432000),
    ("slotLength", .object [("milliseconds", .int milliseconds)]), ("safeZone", .int 129600)]

/-- A closed era of a hundred slots, and an open one that follows upon it. -/
def openHistory : List Json :=
  [.object [("start", boundDocument 0), ("end", boundDocument 100),
      ("parameters", parametersDocument 20000)],
    .object [("start", boundDocument 100), ("parameters", parametersDocument 1000)]]

def openEras : List EraSummary :=
  [⟨⟨0, 0, 0⟩, ⟨100, 100, 0⟩, ⟨432000, 20000, 129600⟩⟩,
    ⟨⟨100, 100, 0⟩, ⟨0, 0, 0⟩, ⟨432000, 1000, 129600⟩⟩]

theorem reads_open_history : Decode.each ofJson openHistory = .ok openEras := by rfl

theorem spans_open_history : EraSpan.ofDocuments openHistory openEras =
    [⟨0, some 100, 20000⟩, ⟨100, none, 1000⟩] := by rfl

theorem forward_open_history :
    ∀ span ∈ EraSpan.ofDocuments openHistory openEras, span.IsForward := by
  rw [spans_open_history]
  intro span member
  rcases List.mem_cons.mp member with rfl | last
  · exact ⟨by simp, by decide⟩
  · cases List.mem_singleton.mp last
    exact ⟨by simp, by decide⟩

/-- The open era is not yet missed at slot zero, and at slot 150 it is by 150 of its slots. -/
theorem elapsed_sums_up_iff_of_open_history :
    elapsedMilliseconds openEras 0 =
        EraSpan.totalElapsed (EraSpan.ofDocuments openHistory openEras) 0 ∧
      elapsedMilliseconds openEras 150 =
        EraSpan.totalElapsed (EraSpan.ofDocuments openHistory openEras) 150 - 150000 := by
  obtain ⟨summed, told, -, -⟩ := elapsed_sums_up_iff reads_open_history forward_open_history
  exact ⟨(summed 0).mpr fun span member open_ => .inl le_rfl, told 150⟩

/-- Slots of an open era, and those before it, come out too early, and the first ones even before
the start of the chain. -/
theorem open_era_counts_backwards :
    Decode.each ofJson openHistory = .ok openEras ∧
    [1, 50, 150].map (elapsedMilliseconds openEras) = [-80000, 900000, 1900000] ∧
    [1, 50, 150].map (EraSpan.totalElapsed (EraSpan.ofDocuments openHistory openEras)) =
      [20000, 1000000, 2050000] := by
  exact ⟨reads_open_history, by decide, by decide⟩

end EraSummary

end NodeBridge
