import Mathlib.Data.List.TakeWhile
import NodeBridge.Ledger.Asset

/-!
Identifiers of assets. A policy without a point and any name can be joined and taken apart again,
for the first point of an identifier is the one that was put there.
-/

namespace NodeBridge

theorem parts_of_free {before after : List Char} (free : '.' ∉ before)
    (stops : ∀ char ∈ after.head?, char = '.') :
    (before ++ after).takeWhile (· ≠ '.') = before ∧
      (before ++ after).dropWhile (· ≠ '.') = after := by
  induction before with
  | nil =>
      cases after with
      | nil => exact ⟨rfl, rfl⟩
      | cons char rest =>
          have point : char = '.' := stops char rfl
          subst point
          exact ⟨rfl, rfl⟩
  | cons char before induction =>
      rw [List.mem_cons, not_or] at free
      have other : char ≠ '.' := fun point => free.1 point.symm
      obtain ⟨taken, dropped⟩ := induction free.2
      rw [List.cons_append, List.takeWhile_cons_of_pos (by simpa using other),
        List.dropWhile_cons_of_pos (by simpa using other), taken, dropped]
      exact ⟨rfl, rfl⟩

namespace AssetId

/-- The policy of an identifier never holds a point. -/
theorem no_point_in_policy (id : AssetId) : '.' ∉ id.policy.toList := by
  unfold policy
  rw [String.toList_ofList]
  intro member
  have other := List.mem_takeWhile_imp member
  simp at other

/-- What is joined to a policy without a point is taken apart into what was joined, whatever
points the name may hold. -/
theorem parts_of_join {policyId : String} (free : '.' ∉ policyId.toList) (assetName : String) :
    (join policyId assetName).policy = policyId ∧ (join policyId assetName).name = assetName := by
  by_cases empty : assetName = ""
  · subst empty
    have chars : (join policyId "").text.toList = policyId.toList ++ [] := by simp [join]
    have stops : ∀ char ∈ ([] : List Char).head?, char = '.' := nofun
    obtain ⟨taken, dropped⟩ := parts_of_free free stops
    unfold policy name
    rw [chars, taken, dropped, String.ofList_toList]
    exact ⟨rfl, rfl⟩
  · have filled : assetName.isEmpty = false := by simpa using empty
    have chars : (join policyId assetName).text.toList =
        policyId.toList ++ '.' :: assetName.toList := by
      simp [join, filled]
    have stops : ∀ char ∈ ('.' :: assetName.toList).head?, char = '.' := by simp
    obtain ⟨taken, dropped⟩ := parts_of_free free stops
    unfold policy name
    rw [chars, taken, dropped, String.ofList_toList, List.drop_one, List.tail_cons,
      String.ofList_toList]
    exact ⟨rfl, rfl⟩

end AssetId

end NodeBridge
