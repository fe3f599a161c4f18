import NodeBridge.Proofs.Ledger.Printed
import NodeBridge.Proofs.Ledger.Sum

/-!
Comparisons of values. Each of them goes over the entries of the value that is to be the smaller
one. What that value writes out so counts besides what it holds: a zero that is written out is
held against a debt of the other value, and one that is left out is not. Of the other value only
the amounts count.
-/

namespace NodeBridge.Value

/-! All comparisons are one. -/

theorem greater_or_equal_eq (value other : Value) :
    value.greaterOrEqual other = other.lessOrEqual value := rfl

theorem enough_eq (held want : Value) : held.enough want = want.lessOrEqual held := rfl

theorem is_ok_require_enough (held want : Value) :
    (held.requireEnough want).isOk = want.lessOrEqual held := by
  unfold requireEnough
  split
  · next entry short =>
      have missing := List.find?_some short
      have member := List.mem_of_find?_eq_some short
      have refused : want.lessOrEqual held = false := by
        unfold lessOrEqual
        rw [List.all_eq_false]
        refine ⟨entry, member, ?_⟩
        simpa using missing
      rw [refused]
      rfl
  · next covered =>
      have held : want.lessOrEqual held = true := by
        unfold lessOrEqual
        rw [List.all_eq_true]
        intro entry member
        simpa using List.find?_eq_none.mp covered entry member
      rw [held]
      rfl

/-! What a comparison depends on. -/

theorem less_or_equal_iff (value bound : Value) :
    value.lessOrEqual bound = true ↔ ∀ policy name, value.Names policy name →
      value.amount policy name ≤ bound.amount policy name := by
  unfold lessOrEqual
  rw [List.all_eq_true]
  constructor
  · intro all policy name names
    have member : ⟨policy, name, value.amount policy name⟩ ∈ value.entries :=
      (value.mem_entries_iff _).mpr ⟨names, rfl⟩
    exact of_decide_eq_true (all _ member)
  · intro all entry member
    obtain ⟨names, amount⟩ := (value.mem_entries_iff entry).mp member
    apply decide_eq_true
    rw [← amount]
    exact all _ _ names

/-- Nothing is held of an asset that a value says nothing about. -/
theorem amount_of_not_names {value : Value} {policy name : String}
    (silent : ¬value.Names policy name) : value.amount policy name = 0 := by
  apply amount_of_not_named
  rintro ⟨other, otherName, amount⟩ member same
  cases same
  exact silent ((value.mem_entries_iff _).mp member).1

/-- Whether all that a value holds or owes is within what another one holds or owes of it. -/
def HoldsWithin (value bound : Value) : Prop :=
  ∀ policy name, value.amount policy name ≠ 0 →
    value.amount policy name ≤ bound.amount policy name

/-- Whether a value writes out a zero for an asset of which another one has a debt. -/
def ZeroOverDebt (value bound : Value) : Prop :=
  ∃ policy name, value.Names policy name ∧ value.amount policy name = 0 ∧
    bound.amount policy name < 0

theorem less_or_equal_iff_holds_within (value bound : Value) :
    value.lessOrEqual bound = true ↔ value.HoldsWithin bound ∧ ¬value.ZeroOverDebt bound := by
  rw [less_or_equal_iff]
  constructor
  · intro all
    constructor
    · intro policy name held
      apply all
      by_contra silent
      exact held (amount_of_not_names silent)
    · rintro ⟨policy, name, names, zero, debt⟩
      have within := all policy name names
      omega
  · rintro ⟨within, clear⟩ policy name names
    by_cases zero : value.amount policy name = 0
    · by_contra above
      exact clear ⟨policy, name, names, zero, by omega⟩
    · exact within policy name zero

/-- Whether two values with the same amounts fare alike against a third one: either one of these
amounts is beyond it already, or both values write out a zero over a debt or neither does. -/
def FareAlike (value other bound : Value) : Prop :=
  value.HoldsWithin bound → (value.ZeroOverDebt bound ↔ other.ZeroOverDebt bound)

/-- Where there is no debt, the zeros that are written out do not count. -/
theorem fare_alike_of_no_debt {bound : Value} (free : ∀ policy name, 0 ≤ bound.amount policy name)
    (value other : Value) : value.FareAlike other bound := by
  have clear (value : Value) : ¬value.ZeroOverDebt bound := by
    rintro ⟨policy, name, -, -, debt⟩
    have solvent := free policy name
    omega
  intro _
  exact iff_of_false (clear value) (clear other)

section

variable {value other bound another : Value}

theorem holds_within_congr (same : value.equal other = true) (bounds : bound.equal another = true) :
    value.HoldsWithin bound ↔ other.HoldsWithin another := by
  rw [equal_iff_amounts] at same bounds
  unfold HoldsWithin
  simp only [same, bounds]

theorem zero_over_debt_congr (bounds : bound.equal another = true) :
    value.ZeroOverDebt bound ↔ value.ZeroOverDebt another := by
  rw [equal_iff_amounts] at bounds
  unfold ZeroOverDebt
  simp only [bounds]

theorem less_or_equal_alike_iff (same : value.equal other = true)
    (bounds : bound.equal another = true) :
    value.lessOrEqual bound = other.lessOrEqual another ↔ value.FareAlike other bound := by
  rw [Bool.eq_iff_iff, less_or_equal_iff_holds_within, less_or_equal_iff_holds_within,
    ← holds_within_congr same bounds, ← zero_over_debt_congr bounds]
  unfold FareAlike
  constructor
  · intro alike within
    rw [and_iff_right within, and_iff_right within] at alike
    exact not_iff_not.mp alike
  · intro alike
    apply and_congr_right
    intro within
    rw [alike within]

end

/-- Equal values need not compare alike. They do exactly if the value that is to be the smaller
one fares alike whichever of its forms is taken; the form of the larger one makes no difference,
and none does where the larger one has no debt. -/
theorem comparisons_alike_iff {left other right another : Value}
    (lefts : left.equal other = true) (rights : right.equal another = true) :
    (left.lessOrEqual right = other.lessOrEqual another ↔ left.FareAlike other right) ∧
    (left.greaterOrEqual right = other.greaterOrEqual another ↔ right.FareAlike another left) ∧
    (left.enough right = other.enough another ↔ right.FareAlike another left) ∧
    ((left.requireEnough right).isOk = (other.requireEnough another).isOk ↔
      right.FareAlike another left) ∧
    ((∀ policy name, 0 ≤ right.amount policy name) → left.FareAlike other right) ∧
    ((∀ policy name, 0 ≤ left.amount policy name) → right.FareAlike another left) := by
  have smaller := less_or_equal_alike_iff lefts rights
  have larger := less_or_equal_alike_iff rights lefts
  refine ⟨smaller, ?_, ?_, ?_, ?_, ?_⟩
  · rw [greater_or_equal_eq, greater_or_equal_eq]
    exact larger
  · rw [enough_eq, enough_eq]
    exact larger
  · rw [is_ok_require_enough, is_ok_require_enough]
    exact larger
  · intro free
    exact fare_alike_of_no_debt free left other
  · intro free
    exact fare_alike_of_no_debt free right another

/-- One amount of one asset. -/
def single (amount : Int) : Value := empty.put "policy" "token" amount

/-- A zero that is written out is above a debt, and one that is left out is not. -/
theorem written_zero_above_debt :
    (single 0).equal empty = true ∧ (single (-1)).equal (single (-1)) = true ∧
      (single 0).lessOrEqual (single (-1)) = false ∧ empty.lessOrEqual (single (-1)) = true ∧
      (single (-1)).greaterOrEqual (single 0) = false ∧
      (single (-1)).greaterOrEqual empty = true ∧
      (single (-1)).enough (single 0) = false ∧ (single (-1)).enough empty = true ∧
      ((single (-1)).requireEnough (single 0)).isOk = false ∧
      ((single (-1)).requireEnough empty).isOk = true := by
  decide

theorem comparisons_alike_iff_of_written_zero :
    (single 0).equal empty = true ∧ (single (-1)).equal (single (-1)) = true ∧
      ¬(single 0).FareAlike empty (single (-1)) ∧
      (single (-1)).greaterOrEqual (single 0) ≠ (single (-1)).greaterOrEqual empty := by
  have zeros : (single 0).equal empty = true := by decide
  have debts : (single (-1)).equal (single (-1)) = true := by decide
  obtain ⟨smaller, -⟩ := comparisons_alike_iff zeros debts
  obtain ⟨-, larger, -⟩ := comparisons_alike_iff debts zeros
  have apart : ¬(single 0).FareAlike empty (single (-1)) := by
    rw [← smaller]
    decide
  exact ⟨zeros, debts, apart, fun alike => apart (larger.mp alike)⟩

end NodeBridge.Value
