import NodeBridge.Chain.Point

/-!
The order of points is total and transitive, so sorted points rank before each other from the
first to the last.
-/

namespace NodeBridge.Point

theorem ranks_before_symbolic_iff (left right : String) :
    ranksBefore (.symbolic left) (.symbolic right) = true ↔ right ≤ left := by
  simp only [ranksBefore, Bool.not_eq_true', decide_eq_false_iff_not, String.not_lt]

theorem ranks_before_structural_iff (left right : BlockPoint) :
    ranksBefore (.structural left) (.structural right) = true ↔ right.slot ≤ left.slot := by
  simp only [ranksBefore, decide_eq_true_iff]

theorem ranks_before_trans (first second third : Point)
    (before : first.ranksBefore second = true) (after : second.ranksBefore third = true) :
    first.ranksBefore third = true := by
  cases first with
  | symbolic first =>
      cases second with
      | structural second => cases before
      | symbolic second =>
          cases third with
          | structural third => cases after
          | symbolic third =>
              rw [ranks_before_symbolic_iff] at before after ⊢
              exact String.le_trans after before
  | structural first =>
      cases third with
      | symbolic third => rfl
      | structural third =>
          cases second with
          | symbolic second => cases after
          | structural second =>
              rw [ranks_before_structural_iff] at before after ⊢
              exact Int.le_trans after before

theorem ranks_before_total (left right : Point) :
    (left.ranksBefore right || right.ranksBefore left) = true := by
  rw [Bool.or_eq_true]
  cases left with
  | symbolic left =>
      cases right with
      | structural right => exact .inr rfl
      | symbolic right =>
          rw [ranks_before_symbolic_iff, ranks_before_symbolic_iff]
          exact String.le_total right left
  | structural left =>
      cases right with
      | symbolic right => exact .inl rfl
      | structural right =>
          rw [ranks_before_structural_iff, ranks_before_structural_iff]
          exact Int.le_total right.slot left.slot

theorem perm_sorted (points : List Point) : (sorted points).Perm points :=
  List.mergeSort_perm points ranksBefore

theorem pairwise_sorted (points : List Point) :
    (sorted points).Pairwise fun left right => left.ranksBefore right = true :=
  List.pairwise_mergeSort ranks_before_trans ranks_before_total points

end NodeBridge.Point
