import Mathlib.Algebra.BigOperators.Ring.List
import Mathlib.Algebra.Ring.Int.Defs
import NodeBridge.Proofs.Ledger.Amount

/-!
Sums and differences of values. Every deposit adds to one amount, so a sum holds the sum of the
amounts of any asset, and values that count as one if they are equal form a commutative group.
-/

namespace NodeBridge

/-- Of entries with distinct keys, one at most is under a given key. -/
theorem sum_eq_lookup {κ : Type} [DecidableEq κ] [BEq κ] [LawfulBEq κ]
    {entries : List (κ × Int)}
    (distinct : (entries.map Prod.fst).Nodup) (key : κ) :
    (entries.map fun entry => if key = entry.1 then entry.2 else 0).sum =
      (entries.lookup key).getD 0 := by
  induction entries with
  | nil => rfl
  | cons entry entries induction =>
      rw [List.map_cons, List.nodup_cons] at distinct
      rw [List.map_cons, List.sum_cons, induction distinct.2, lookup_cons_entry]
      by_cases same : key = entry.1
      · rw [if_pos same, if_pos same, same, Value.lookup_of_not_mem distinct.1]
        exact Int.add_zero entry.2
      · rw [if_neg same, if_neg same, Int.zero_add]

namespace Value

theorem amount_deposit (value : Value) (policy name : String) (amount : Int)
    (other otherName : String) :
    (value.deposit policy name amount).amount other otherName =
      value.amount other otherName +
        if (other, otherName) = (policy, name) then amount else 0 := by
  unfold deposit
  rw [amount_put]
  by_cases same : (other, otherName) = (policy, name)
  · rw [if_pos same, if_pos same]
    obtain ⟨rfl, rfl⟩ := Prod.mk.inj same
    rfl
  · rw [if_neg same, if_neg same, Int.add_zero]

theorem amount_foldl_deposit (deposits : List ((String × String) × Int)) (start : Value)
    (policy name : String) :
    (deposits.foldl (fun value entry => value.deposit entry.1.1 entry.1.2 entry.2) start).amount
        policy name =
      start.amount policy name +
        (deposits.map fun entry => if (policy, name) = entry.1 then entry.2 else 0).sum := by
  induction deposits generalizing start with
  | nil => exact (Int.add_zero _).symm
  | cons entry deposits induction =>
      rw [List.foldl_cons, induction, amount_deposit, List.map_cons, List.sum_cons,
        Int.add_assoc]

theorem amount_eq_sum (value : Value) (policy name : String) :
    value.amount policy name =
      ((keyed value.entries).map fun entry =>
        if (policy, name) = entry.1 then entry.2 else 0).sum := by
  have distinct : ((keyed value.entries).map Prod.fst).Nodup := by
    rw [keys_keyed]
    exact value.nodup_entries
  rw [sum_eq_lookup distinct, amount_eq_lookup]

/-- A combination holds, of every asset, what the left value holds and so many times what the
right one does. -/
theorem amount_combine (sign : Int) (left right : Value) (policy name : String) :
    (combine sign left right).amount policy name =
      left.amount policy name + sign * right.amount policy name := by
  have folded : combine sign left right =
      ((keyed right.entries).map fun entry => (entry.1, sign * entry.2)).foldl
        (fun value entry => value.deposit entry.1.1 entry.1.2 entry.2) left := by
    unfold keyed combine
    rw [List.foldl_map, List.foldl_map]
    rfl
  rw [folded, amount_foldl_deposit, amount_eq_sum right, ← List.sum_map_mul_left, List.map_map]
  congr 2
  apply List.map_congr_left
  intro entry _
  simp only [Function.comp_apply, mul_ite, mul_zero]

theorem amount_add (left right : Value) (policy name : String) :
    (add left right).amount policy name = left.amount policy name + right.amount policy name := by
  unfold add
  rw [amount_combine, Int.one_mul]

theorem amount_subtract (left right : Value) (policy name : String) :
    (subtract left right).amount policy name =
      left.amount policy name - right.amount policy name := by
  unfold subtract
  rw [amount_combine, Int.neg_one_mul, Int.sub_eq_add_neg]

/-- An asset that no entry names is not held. -/
theorem amount_of_not_named {value : Value} {policy name : String}
    (absent : ∀ entry ∈ value.entries, entry.asset ≠ (policy, name)) :
    value.amount policy name = 0 := by
  rw [amount_eq_lookup, lookup_of_not_mem]
  · rfl
  · rw [keys_keyed, List.mem_map]
    rintro ⟨entry, member, same⟩
    exact absent entry member same

/-- Equality looks at the assets that one of the values names, and at no other asset do amounts
differ. -/
theorem equal_iff_amounts (left right : Value) :
    left.equal right = true ↔
      ∀ policy name, left.amount policy name = right.amount policy name := by
  refine ⟨?_, equal_of_amounts⟩
  intro equal policy name
  unfold Value.equal at equal
  rw [List.all_eq_true] at equal
  by_cases named : ∃ entry ∈ left.entries ++ right.entries, entry.asset = (policy, name)
  · obtain ⟨entry, member, same⟩ := named
    have amounts := of_decide_eq_true (equal entry member)
    obtain ⟨rfl, rfl⟩ := Prod.mk.inj same
    exact amounts
  · have absent : ∀ entry ∈ left.entries ++ right.entries, entry.asset ≠ (policy, name) :=
      fun entry member same => named ⟨entry, member, same⟩
    have leftNone : left.amount policy name = 0 := amount_of_not_named fun entry member =>
      absent entry (List.mem_append_left _ member)
    have rightNone : right.amount policy name = 0 := amount_of_not_named fun entry member =>
      absent entry (List.mem_append_right _ member)
    rw [leftNone, rightNone]

end Value

end NodeBridge
