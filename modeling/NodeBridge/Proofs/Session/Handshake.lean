import NodeBridge.Proofs.Chain.PointOrder
import NodeBridge.Proofs.Chain.PointText
import NodeBridge.Proofs.Follower.Pipeline
import NodeBridge.Proofs.Session.Connections

/-!
The points that a handshake offers. Sorting ranks the points of a source in the one way that keeps
the order of points of equal rank, and a handshake offers the foremost five of the first source
that has any points, so that nothing which is left out stands ahead of what is offered. A handshake
cannot be written if a number of an offered point has too many digits, and a follower that cannot
write its handshake says nothing at all: what it says in any run can be written.
-/

namespace NodeBridge

namespace Point

def hasSlot (slot : Int) : Point → Bool
  | .structural block => block.slot = slot
  | .symbolic _ => false

/-- The points of a source in their ranks: blocks in front, the later slot before the earlier one
and those of one slot in the order of the source, then names, the greater before the smaller. -/
structure IsRanking (source ranked : List Point) : Prop where
  perm : ranked.Perm source
  split : ∃ (blocks : List BlockPoint) (names : List String),
    ranked = blocks.map structural ++ names.map symbolic ∧
    blocks.Pairwise (fun left right => right.slot ≤ left.slot) ∧
    names.Pairwise fun left right => right ≤ left
  stable : ∀ slot, ranked.filter (hasSlot slot) = source.filter (hasSlot slot)

/-- Behind a name no block may stand. -/
theorem symbolic_of_ranked {name : String} {points : List Point}
    (ordered : ∀ other ∈ points, (symbolic name).ranksBefore other = true) :
    ∃ names : List String, points = names.map symbolic := by
  induction points with
  | nil => exact ⟨[], rfl⟩
  | cons point points induction =>
      rw [List.forall_mem_cons] at ordered
      obtain ⟨names, rfl⟩ := induction ordered.2
      cases point with
      | structural block => cases ordered.1
      | symbolic first => exact ⟨first :: names, rfl⟩

theorem split_of_ranked {points : List Point}
    (ordered : points.Pairwise fun left right => left.ranksBefore right = true) :
    ∃ (blocks : List BlockPoint) (names : List String),
      points = blocks.map structural ++ names.map symbolic := by
  induction points with
  | nil => exact ⟨[], [], rfl⟩
  | cons point points induction =>
      rw [List.pairwise_cons] at ordered
      cases point with
      | structural block =>
          obtain ⟨blocks, names, rfl⟩ := induction ordered.2
          exact ⟨block :: blocks, names, rfl⟩
      | symbolic name =>
          obtain ⟨names, rfl⟩ := symbolic_of_ranked ordered.1
          exact ⟨[], name :: names, rfl⟩

/-- Blocks of one slot are in order as they come, so sorting leaves them in it. -/
theorem filter_slot_sorted (points : List Point) (slot : Int) :
    (sorted points).filter (hasSlot slot) = points.filter (hasSlot slot) := by
  have equal : (points.filter (hasSlot slot)).Pairwise fun left right =>
      left.ranksBefore right = true := by
    apply List.pairwise_of_forall_mem_list
    intro left first right second
    have leftSlot := (List.mem_filter.mp first).2
    have rightSlot := (List.mem_filter.mp second).2
    cases left with
    | symbolic name => cases leftSlot
    | structural left =>
        cases right with
        | symbolic name => cases rightSlot
        | structural right =>
            simp only [hasSlot, decide_eq_true_iff] at leftSlot rightSlot
            have same : right.slot = left.slot := by rw [leftSlot, rightSlot]
            exact (ranks_before_structural_iff left right).mpr (Int.le_of_eq same)
  have kept : (points.filter (hasSlot slot)).Sublist (sorted points) :=
    List.sublist_mergeSort ranks_before_trans ranks_before_total equal List.filter_sublist
  have within := kept.filter (hasSlot slot)
  rw [List.filter_filter] at within
  simp only [Bool.and_self] at within
  have count := ((perm_sorted points).filter (hasSlot slot)).length_eq
  exact (within.eq_of_length count.symm).symm

theorem is_ranking_sorted (points : List Point) : IsRanking points (sorted points) := by
  have ordered := pairwise_sorted points
  obtain ⟨blocks, names, split⟩ := split_of_ranked ordered
  rw [split, List.pairwise_append, List.pairwise_map, List.pairwise_map] at ordered
  constructor
  · exact perm_sorted points
  · refine ⟨blocks, names, split, ?_, ?_⟩
    · exact ordered.1.imp fun before => (ranks_before_structural_iff _ _).mp before
    · exact ordered.2.1.imp fun before => (ranks_before_symbolic_iff _ _).mp before
  · exact filter_slot_sorted points

end Point

namespace Handshake

theorem candidates_ne_nil (stored offered : List Point) : candidates stored offered ≠ [] := by
  unfold candidates
  cases stored with
  | cons point stored => exact List.cons_ne_nil _ _
  | nil =>
      cases offered with
      | cons point offered => exact List.cons_ne_nil _ _
      | nil => exact List.cons_ne_nil _ _

theorem find_candidates (stored offered : List Point) :
    [stored, offered, [Point.origin]].find? (fun points => !points.isEmpty) =
      some (candidates stored offered) := by
  unfold candidates
  cases stored with
  | cons point stored => rfl
  | nil => cases offered <;> rfl

/-- The request for an intersection of the chain with some points. -/
def document (points : List Json) : Json :=
  .object [("jsonrpc", .text "2.0"), ("method", .text "findIntersection"),
    ("params", .object [("points", .list points)]), ("id", .object [("step", .text "INIT")])]

/-- A handshake offers the foremost five points of the first source that has any, ranked as they
are sorted; what is left out never stands strictly ahead of what is offered. It carries their
documents, or cannot be written if one of them has too long a number. Sorting only moves points,
and its order is total and transitive. -/
theorem request_offers_foremost (stored offered : List Point) :
    (∃ source ranked : List Point,
      [stored, offered, [Point.origin]].find? (fun points => !points.isEmpty) = some source ∧
      Point.IsRanking source ranked ∧
      (request stored offered).written =
        (if (ranked.take 5).any Point.isTooLong then .error .numberTooLong
          else .ok (document ((ranked.take 5).map Point.toJson)).asciiText) ∧
      ranked.take 5 ≠ [] ∧ (ranked.take 5).length = min 5 source.length ∧
      ∀ left ∈ ranked.drop 5, ∀ sent ∈ ranked.take 5, sent.ranksBefore left = true) ∧
    (∀ points : List Point, (Point.sorted points).Perm points) ∧
    (∀ first second third : Point, first.ranksBefore second = true →
      second.ranksBefore third = true → first.ranksBefore third = true) ∧
    ∀ left right : Point, left.ranksBefore right = true ∨ right.ranksBefore left = true := by
  have length := (Point.perm_sorted (candidates stored offered)).length_eq
  have filled := List.length_pos_iff.mpr (candidates_ne_nil stored offered)
  have ordered := Point.pairwise_sorted (candidates stored offered)
  rw [← List.take_append_drop 5 (Point.sorted (candidates stored offered)),
    List.pairwise_append] at ordered
  refine ⟨⟨candidates stored offered, Point.sorted (candidates stored offered),
    find_candidates stored offered, Point.is_ranking_sorted _, rfl, ?_, ?_, ?_⟩,
    Point.perm_sorted, Point.ranks_before_trans, ?_⟩
  · rw [← List.length_pos_iff, List.length_take]
    omega
  · rw [List.length_take, length]
  · intro left out sent inside
    exact ordered.2.2 sent inside left out
  · intro left right
    have total := Point.ranks_before_total left right
    rwa [Bool.or_eq_true] at total

/-- A store with a slot of one digit too many leaves nothing to send, so not every handshake
carries the documents of some points. -/
theorem no_request_of_long_slot :
    (request [.withLongSlot] []).written = .error .numberTooLong ∧
    ¬∀ stored offered : List Point, ∃ points : List Point, points ≠ [] ∧
      (request stored offered).written = .ok (document (points.map Point.toJson)).asciiText := by
  have long : (request [.withLongSlot] []).isTooLong = true := by
    rw [request_of_single rfl, Request.isTooLong, List.any_cons, Point.is_too_long_with_long_slot]
    rfl
  have fails : (request [.withLongSlot] []).written = .error .numberTooLong := if_pos long
  refine ⟨fails, fun carried => ?_⟩
  obtain ⟨points, -, written⟩ := carried [.withLongSlot] []
  cases fails.symm.trans written

end Handshake

namespace ChainFollower

/-- Whatever a follower that loads its points says in any run, it can be written. -/
theorem writable_of_said {settings : Session.Options} {options : Options}
    {events : List Session.Event} {last : Session.State Memory}
    {told : List (Session.Event × List (Session.Effect Bytes))}
    (loads : settings.loads = true)
    (ran : Session.run settings (conversation options) .initial events = some (last, told)) :
    ∀ turn ∈ told, ∀ request, .connection (.send request) ∈ turn.2 →
      ∃ content, request.written = .ok content := by
  intro turn member request said
  obtain ⟨before, after, rfl⟩ := List.append_of_mem member
  obtain ⟨state, first, second, early, late⟩ := Session.run_split ran
  obtain ⟨next, rest, possible, -⟩ := Session.run_cons late rfl
  have sends : .send request ∈ turn.2.filterMap Session.Effect.connection? :=
    List.mem_filterMap.mpr ⟨_, said, rfl⟩
  rcases Session.on_line_of_move (Session.move_of_step possible) with
    ⟨-, nothing | closes⟩ | ⟨connection, moved, later, connected, -, steps⟩
  · simp [nothing] at sends
  · simp [closes] at sends
  -- All that was sent on the line is the opening and requests for blocks.
  · obtain ⟨stored, past, reached, -, clear⟩ := Session.reached_of_connected early connected
    have among : request ∈ Connection.sent
        (past ++ [⟨connection, moved, turn.2.filterMap Session.Effect.connection?⟩]) := by
      rw [Connection.sent_snoc]
      exact List.mem_append_right _ (List.mem_filterMap.mpr ⟨_, sends, rfl⟩)
    rcases (pumping_of_reached (reached.step steps)).writer with ⟨-, none⟩ | ⟨-, -, count, whole⟩
    · rw [none] at among
      cases among
    · rw [whole] at among
      rcases List.mem_cons.mp among with rfl | block
      · exact (Request.failure_eq_none_iff _).mp (clear loads)
      · rw [List.eq_of_mem_replicate block]
        exact ⟨_, rfl⟩

end ChainFollower

end NodeBridge
