import NodeBridge.Proofs.Store.Checkpoints

/-!
Which points are found again after they were saved. A new point stands in front of all others of
its rank, so it is kept exactly if the points strictly ahead of it leave it a place. Where the
chain went back behind as many points as are kept, the point that it went back to is lost as soon
as it is saved, and the file offers only points that the chain has left.
-/

namespace NodeBridge

namespace Point

/-- The points of a list that stand strictly ahead of another one. -/
def ahead (point : Point) (points : List Point) : List Point :=
  points.filter fun other => !point.ranksBefore other

theorem ranks_before_self (point : Point) : point.ranksBefore point = true := by
  simpa using ranks_before_total point point

/-- A point in front of a list is sorted behind what stands strictly ahead of it, and before
everything else. -/
theorem sorted_cons (point : Point) (points : List Point) :
    ∃ front back, sorted (point :: points) = front ++ point :: back ∧
      sorted points = front ++ back ∧ front.length = (point.ahead points).length := by
  obtain ⟨front, back, whole, rest, before⟩ :=
    List.mergeSort_cons ranks_before_trans ranks_before_total point points
  refine ⟨front, back, whole, rest, ?_⟩
  have ordered := pairwise_sorted (point :: points)
  rw [sorted, whole, List.pairwise_append, List.pairwise_cons] at ordered
  have behind : ∀ other ∈ back, point.ranksBefore other = true := ordered.2.1.1
  have all : point.ahead (front ++ back) = front := by
    unfold ahead
    rw [List.filter_append, List.filter_eq_self.mpr before, List.filter_eq_nil_iff.mpr,
      List.append_nil]
    intro other member
    simp [behind other member]
  have same : (point.ahead (sorted points)).Perm (point.ahead points) :=
    (perm_sorted points).filter _
  rw [sorted, rest, all] at same
  exact same.length_eq

end Point

namespace Checkpoints

theorem ahead_filter_ne (point : Point) (points : List Point) :
    point.ahead (points.filter (· ≠ point)) = point.ahead points := by
  unfold Point.ahead
  rw [List.filter_filter]
  apply List.filter_congr
  intro other _
  by_cases same : other = point
  · simp [same, point.ranks_before_self]
  · simp [same]

/-- Of all points that compete for a place the new one is among the foremost exactly if fewer
stand strictly ahead of it than there are places. -/
theorem mem_add_iff (keep : Nat) (point : Point) (points : List Point) :
    point ∈ add keep point points ↔ (point.ahead points).length < keep := by
  obtain ⟨front, back, whole, rest, count⟩ := Point.sorted_cons point (points.filter (· ≠ point))
  have others : point ∉ front ++ back := by
    rw [← rest, (Point.perm_sorted _).mem_iff, List.mem_filter]
    simp
  rw [List.mem_append, not_or] at others
  rw [ahead_filter_ne] at count
  rw [add_eq_take, candidates, whole, List.take_append, List.mem_append, ← count]
  constructor
  · rintro (early | late)
    · exact absurd (List.mem_of_mem_take early) others.1
    · by_contra full
      rw [Nat.sub_eq_zero_of_le (Nat.le_of_not_lt full)] at late
      cases late
  · intro room
    obtain ⟨places, more⟩ : ∃ places, keep - front.length = places + 1 :=
      ⟨keep - front.length - 1, by omega⟩
    rw [more, List.take_succ_cons]
    exact .inr List.mem_cons_self

variable {keep : Nat} {saved : Finset Point} {kept : List Point}

/-- As far as a place is concerned, the points that were left out earlier do not count. -/
theorem IsBestOf.length_ahead_lt_iff (best : IsBestOf keep saved kept) (point : Point) :
    (point.ahead kept).length < keep ↔
      (saved.filter fun other => point.ranksBefore other = false).card < keep := by
  have counted : (point.ahead kept).length = (point.ahead kept).toFinset.card :=
    (List.toFinset_card_of_nodup (best.nodup.filter _)).symm
  have among : (point.ahead kept).toFinset ⊆
      saved.filter fun other => point.ranksBefore other = false := by
    intro other member
    rw [List.mem_toFinset, Point.ahead, List.mem_filter] at member
    rw [Finset.mem_filter]
    exact ⟨best.subset other member.1, by simpa using member.2⟩
  constructor
  · intro room
    -- A point ahead that was left out would have all that are kept ahead of it, and no place free.
    have all : (saved.filter fun other => point.ranksBefore other = false) ⊆
        (point.ahead kept).toFinset := by
      intro other member
      rw [Finset.mem_filter] at member
      by_contra absent
      have out : other ∉ kept := fun there => absent (by
        rw [List.mem_toFinset, Point.ahead, List.mem_filter]
        exact ⟨there, by simp [member.2]⟩)
      have full := best.full member.1 out
      have every : point.ahead kept = kept := by
        apply List.filter_eq_self.mpr
        intro third there
        have before := best.best other member.1 out third there
        by_contra behind
        have trans := Point.ranks_before_trans point third other (by simpa using behind) before
        rw [member.2] at trans
        cases trans
      rw [every] at room
      omega
    have fewer := Finset.card_le_card all
    omega
  · intro room
    have fewer := Finset.card_le_card among
    omega

end Checkpoints

namespace CheckpointFile

open Checkpoints

/-- A file that could be written could be read before, and it is read again as what it held with
the point in its place. -/
theorem load_of_save {file after : CheckpointFile} {point : Point}
    (saves : file.save point = .ok after) :
    ∃ held, file.load = .ok held ∧ after.load = .ok (add file.keep point held) := by
  obtain ⟨held, loads, -⟩ := map_eq_ok.mp saves
  obtain ⟨written, again, -, back⟩ := save_of_load loads point
  rw [saves] at again
  cases again
  exact ⟨held, loads, back⟩

theorem keep_of_save {file after : CheckpointFile} {point : Point}
    (saves : file.save point = .ok after) : after.keep = file.keep := by
  obtain ⟨held, -, same⟩ := map_eq_ok.mp saves
  rw [← same]

theorem keep_of_saves {file after : CheckpointFile} {points : List Point}
    (saves : points.foldlM save file = .ok after) : after.keep = file.keep := by
  induction points generalizing file with
  | nil =>
      cases saves
      rfl
  | cons point points induction =>
      rw [List.foldlM_cons, bind_eq_ok] at saves
      obtain ⟨next, first, rest⟩ := saves
      rw [induction rest, keep_of_save first]

/-- A point that was saved is found again exactly if fewer points stand strictly ahead of it than
the file has room for: of the points that the file held, whatever its content was, and of all
different points ever saved where the file was not there at first. -/
theorem saved_point_kept_iff (keep : Nat) (point : Point) :
    (∀ file after : CheckpointFile, file.keep = keep → file.save point = .ok after →
      ∃ held kept, file.load = .ok held ∧ after.load = .ok kept ∧
        (point ∈ kept ↔ (point.ahead held).length < keep)) ∧
    ∀ (path : String) (history : List Point), ∃ file after kept,
      history.foldlM save ⟨path, keep, none⟩ = .ok file ∧ file.save point = .ok after ∧
        after.load = .ok kept ∧
        (point ∈ kept ↔
          (history.toFinset.filter fun other => point.ranksBefore other = false).card < keep) := by
  constructor
  · intro file after size saves
    obtain ⟨held, loads, back⟩ := load_of_save saves
    rw [size] at back
    exact ⟨held, _, loads, back, mem_add_iff keep point held⟩
  · intro path history
    have start : (⟨path, keep, none⟩ : CheckpointFile).load = .ok [] := rfl
    obtain ⟨file, held, saves, loads, best⟩ :=
      is_best_of_saves rfl start (is_best_of_nil keep) history
    have size : file.keep = keep := keep_of_saves saves
    obtain ⟨after, written, -, back⟩ := save_of_load loads point
    rw [Finset.empty_union] at best
    rw [size] at back
    refine ⟨file, after, _, saves, written, back, ?_⟩
    rw [mem_add_iff, best.length_ahead_lt_iff]

/-- The block of a slot, with no more said of it. -/
def block (slot : Int) : Point := .structural ⟨"", slot, none⟩

/-- A file with room for two points that holds the block of slot ten keeps the one of slot five,
to which the chain went back. -/
theorem saved_point_kept_of_room :
    ∃ (file after : CheckpointFile) (kept : List Point), file.keep = (2 : Nat) ∧
      file.load = .ok [block 10] ∧ file.save (block 5) = .ok after ∧ after.load = .ok kept ∧
        block 5 ∈ kept := by
  have loads : (⟨"points", 2, some (toBytes [block 10])⟩ : CheckpointFile).load =
      .ok [block 10] := of_bytes_to_bytes _ _
  obtain ⟨after, saves, -⟩ := save_of_load loads (block 5)
  obtain ⟨held, kept, before, back, iff⟩ := (saved_point_kept_iff 2 (block 5)).1 _ after rfl saves
  rw [loads] at before
  cases before
  exact ⟨_, after, kept, rfl, loads, saves, back, iff.mpr (by decide)⟩

/-- A file with room for one point that holds the block of slot ten loses the one of slot five,
to which the chain went back, when that is saved. -/
theorem step_back_not_kept :
    ∃ (file after : CheckpointFile) (kept : List Point),
      [block 10].foldlM save ⟨"points", 1, none⟩ = .ok file ∧
        file.save (block 5) = .ok after ∧ after.load = .ok kept ∧ block 5 ∉ kept := by
  have start : (⟨"points", 1, none⟩ : CheckpointFile).load = .ok [] := rfl
  obtain ⟨file, first, size, loads⟩ := save_of_load start (block 10)
  obtain ⟨after, second, -, back⟩ := save_of_load loads (block 5)
  refine ⟨file, after, _, by rw [List.foldlM_cons, first]; rfl, second, back, ?_⟩
  rw [size]
  have held : add 1 (block 10) [] = [block 10] := by simp [add, keepFirst, Point.sorted]
  rw [held]
  intro kept
  have room := (mem_add_iff 1 (block 5) [block 10]).mp kept
  revert room
  decide

end CheckpointFile

end NodeBridge
