import Mathlib.Data.Finset.Card
import NodeBridge.Proofs.Cbor.Containers
import NodeBridge.Proofs.Chain.Point
import NodeBridge.Proofs.Chain.PointOrder
import NodeBridge.Store.Checkpoints

/-!
What a file of checkpoints holds after any number of points were saved to it: as many of them as
it has room for, each once, and the foremost in rank. Each point that was left out stands behind
all that are kept, and this survives the saving of another point: where a point comes back that
was left out before, one of those that are kept stands between it and the ones left out.
-/

namespace NodeBridge

namespace Checkpoints

open Cbor

theorem reads_to_bytes (points : List Point) :
    Reads Place.outermost (toBytes points)
      (.list (points.map fun point => .bytes point.toCbor)) := by
  have items : ReadsItems ⟨Place.nestingLimit - 1, false, none⟩
      ((points.map Point.toCbor).flatMap encodeByteString)
      (points.map fun point => .bytes point.toCbor) := by
    induction points with
    | nil => exact reads_items_nil _
    | cons point points induction =>
        exact reads_items_cons (reads_byte_string _ point.toCbor) induction
  have list : Reads Place.outermost _ (.list _) := reads_list rfl rfl items
  rw [List.length_map] at list
  unfold toBytes encodeByteStrings
  rw [List.length_map]
  exact list

theorem points_of_to_cbor (points : List Point) :
    pointsOf (points.map fun point => .bytes point.toCbor) = .ok points := by
  induction points with
  | nil => rfl
  | cons point points induction =>
      have filled : (Item.bytes point.toCbor).isVoid = false := by
        simpa [Item.isVoid] using point.to_cbor_ne.1
      have entry : pointOf (.bytes point.toCbor) = .ok (some point) := by
        unfold pointOf
        rw [filled, if_neg Bool.false_ne_true]
        simp only [Point.of_cbor_to_cbor]
        rfl
      rw [List.map_cons, pointsOf, entry, induction]
      rfl

/-- What was written is read again. -/
theorem of_bytes_to_bytes (path : String) (points : List Point) :
    ofBytes path (toBytes points) = .ok points := by
  unfold ofBytes
  rw [decode_of_reads (reads_to_bytes points)]
  exact points_of_to_cbor points

/-- The foremost of the points that were saved, as many as are to be kept. -/
structure IsBestOf (keep : Nat) (saved : Finset Point) (kept : List Point) : Prop where
  subset : ∀ point ∈ kept, point ∈ saved
  nodup : kept.Nodup
  ordered : kept.Pairwise fun left right => left.ranksBefore right = true
  length : kept.length = min keep saved.card
  best : ∀ point ∈ saved, point ∉ kept → ∀ other ∈ kept, other.ranksBefore point = true

theorem is_best_of_nil (keep : Nat) : IsBestOf keep ∅ [] where
  subset := by simp
  nodup := List.nodup_nil
  ordered := List.Pairwise.nil
  length := by simp
  best := by simp

variable {keep : Nat} {saved : Finset Point} {kept : List Point}

/-- Where a point was left out, there was no more room. -/
theorem IsBestOf.full (best : IsBestOf keep saved kept) {point : Point} (member : point ∈ saved)
    (absent : point ∉ kept) : kept.length = keep := by
  have fewer : kept.toFinset ⊂ saved := by
    rw [Finset.ssubset_iff_of_subset fun other there =>
      best.subset other (List.mem_toFinset.mp there)]
    exact ⟨point, member, fun there => absent (List.mem_toFinset.mp there)⟩
  have less := Finset.card_lt_card fewer
  rw [List.toFinset_card_of_nodup best.nodup] at less
  have length := best.length
  omega

/-- All points that compete for a place when another one is saved. -/
def candidates (point : Point) (points : List Point) : List Point :=
  Point.sorted (point :: points.filter (· ≠ point))

theorem add_eq_take (keep : Nat) (point : Point) (points : List Point) :
    add keep point points = (candidates point points).take keep := by
  unfold add keepFirst
  rw [if_pos (Int.natCast_nonneg keep), Int.toNat_natCast]
  rfl

theorem mem_candidates_iff (point other : Point) (points : List Point) :
    other ∈ candidates point points ↔ other = point ∨ other ∈ points := by
  unfold candidates
  rw [(Point.perm_sorted _).mem_iff, List.mem_cons, List.mem_filter]
  by_cases same : other = point <;> simp [same]

theorem nodup_candidates (point : Point) {points : List Point} (distinct : points.Nodup) :
    (candidates point points).Nodup := by
  unfold candidates
  rw [(Point.perm_sorted _).nodup_iff, List.nodup_cons]
  exact ⟨by simp, distinct.filter _⟩

theorem length_candidates (point : Point) {points : List Point} (distinct : points.Nodup) :
    (candidates point points).length =
      if point ∈ points then points.length else points.length + 1 := by
  have sorted := (Point.perm_sorted (point :: points.filter (· ≠ point))).length_eq
  have others : points.filter (· ≠ point) = points.erase point := by
    rw [distinct.erase_eq_filter]
    apply List.filter_congr
    intro other _
    by_cases same : other = point <;> simp [same]
  unfold candidates
  rw [sorted, List.length_cons, others, List.length_erase]
  split
  · next member =>
      have filled := List.length_pos_of_mem member
      omega
  · rfl

/-- Any candidate that is not kept stands behind all that are. -/
theorem ranks_before_of_left_out {point other left : Point} {points : List Point}
    (kept : other ∈ (candidates point points).take keep)
    (candidate : left ∈ candidates point points)
    (absent : left ∉ (candidates point points).take keep) : other.ranksBefore left = true := by
  have ordered : (candidates point points).Pairwise fun left right =>
      left.ranksBefore right = true := Point.pairwise_sorted _
  rw [← List.take_append_drop keep (candidates point points)] at candidate ordered
  rw [List.mem_append] at candidate
  rw [List.pairwise_append] at ordered
  exact ordered.2.2 other kept left (candidate.resolve_left absent)

theorem exists_not_mem_take {points : List Point} (distinct : points.Nodup)
    (more : keep < points.length) : ∃ last ∈ points, last ∉ points.take keep := by
  have filled : points.drop keep ≠ [] := by
    rw [ne_eq, List.drop_eq_nil_iff]
    omega
  obtain ⟨last, dropped⟩ := List.exists_mem_of_ne_nil _ filled
  refine ⟨last, List.mem_of_mem_drop dropped, fun taken => ?_⟩
  exact List.disjoint_take_drop distinct (Nat.le_refl keep) taken dropped

theorem is_best_of_add (best : IsBestOf keep saved kept) (point : Point) :
    IsBestOf keep (insert point saved) (add keep point kept) := by
  have distinct := nodup_candidates point best.nodup
  rw [add_eq_take]
  constructor
  · intro other member
    rw [Finset.mem_insert]
    exact ((mem_candidates_iff point other kept).mp (List.mem_of_mem_take member)).imp_right
      (best.subset other)
  · exact distinct.sublist (List.take_sublist _ _)
  · exact (Point.pairwise_sorted _).sublist (List.take_sublist _ _)
  · have length := best.length
    rw [List.length_take, length_candidates point best.nodup]
    by_cases again : point ∈ saved
    · rw [Finset.insert_eq_of_mem again]
      by_cases there : point ∈ kept
      · rw [if_pos there]
        omega
      · have full := best.full again there
        rw [if_neg there]
        omega
    · have absent : point ∉ kept := fun there => again (best.subset point there)
      rw [Finset.card_insert_of_notMem again, if_neg absent]
      omega
  · intro left there absent other member
    by_cases candidate : left ∈ candidates point kept
    · exact ranks_before_of_left_out member candidate absent
    rw [mem_candidates_iff, not_or] at candidate
    have old : left ∈ saved := (Finset.mem_insert.mp there).resolve_left candidate.1
    have behind := best.best left old candidate.2
    have competes := (mem_candidates_iff point other kept).mp (List.mem_of_mem_take member)
    rcases competes with rfl | there
    · by_cases again : other ∈ kept
      · exact behind other again
      -- A new point pushes out one that was kept, which stands behind it and before `left`.
      have full := best.full old candidate.2
      have length := length_candidates other best.nodup
      rw [if_neg again] at length
      obtain ⟨last, among, pushed⟩ := exists_not_mem_take distinct (show keep < _ by omega)
      have other_ne : last ≠ other := by
        rintro rfl
        exact pushed member
      have before := ranks_before_of_left_out member among pushed
      have kept := ((mem_candidates_iff other last kept).mp among).resolve_left other_ne
      exact Point.ranks_before_trans _ _ _ before (behind last kept)
    · exact behind other there

end Checkpoints

namespace CheckpointFile

open Checkpoints

/-- Where a file can be read, a point can be saved, and what was written is read again. -/
theorem save_of_load {file : CheckpointFile} {points : List Point}
    (loads : file.load = .ok points) (point : Point) :
    ∃ after, file.save point = .ok after ∧ after.keep = file.keep ∧
      after.load = .ok (add file.keep point points) := by
  refine ⟨{ file with content := some (toBytes (add file.keep point points)) }, ?_, rfl, ?_⟩
  · unfold save
    rw [loads]
    rfl
  · exact of_bytes_to_bytes file.path _

theorem is_best_of_saves {keep : Nat} {saved : Finset Point} {file : CheckpointFile}
    {kept : List Point} (size : file.keep = keep) (loads : file.load = .ok kept)
    (best : IsBestOf keep saved kept) (points : List Point) :
    ∃ after last, points.foldlM save file = .ok after ∧ after.load = .ok last ∧
      IsBestOf keep (saved ∪ points.toFinset) last := by
  induction points generalizing saved file kept with
  | nil => exact ⟨file, kept, rfl, loads, by simpa using best⟩
  | cons point points induction =>
      obtain ⟨next, saves, same, loadsNext⟩ := save_of_load loads point
      rw [size] at same loadsNext
      obtain ⟨after, last, rest, loadsLast, bestLast⟩ :=
        induction same loadsNext (is_best_of_add best point)
      refine ⟨after, last, ?_, loadsLast, ?_⟩
      · rw [List.foldlM_cons, saves]
        exact rest
      · rw [List.toFinset_cons, Finset.union_insert, ← Finset.insert_union]
        exact bestLast

/-- Points that are saved to a file which is not there at first can always be saved and read
again, and the file then holds the foremost of them. -/
theorem load_after_saves (path : String) (keep : Nat) (points : List Point) :
    ∃ file kept, points.foldlM save ⟨path, keep, none⟩ = .ok file ∧ file.load = .ok kept ∧
      IsBestOf keep points.toFinset kept := by
  have start : (⟨path, keep, none⟩ : CheckpointFile).load = .ok [] := rfl
  obtain ⟨file, kept, saves, loads, best⟩ :=
    is_best_of_saves rfl start (is_best_of_nil keep) points
  rw [Finset.empty_union] at best
  exact ⟨file, kept, saves, loads, best⟩

end CheckpointFile

end NodeBridge
