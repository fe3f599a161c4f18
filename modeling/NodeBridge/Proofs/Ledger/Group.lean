import NodeBridge.Proofs.Ledger.Arena
import NodeBridge.Proofs.Ledger.Sum

/-!
Values as a commutative group. What values hold decides whether they are equal, sums and
differences are those of the amounts, and so the laws of integers carry over. In memory a sum is
made apart from its operands.
-/

namespace NodeBridge

namespace Value

/-- The laws of a commutative group, for values that count as one if they are equal. -/
structure FormsGroup : Prop where
  equivalence : Equivalence fun left right : Value => left.equal right = true
  add_respects : ∀ {left other right another : Value}, left.equal other = true →
    right.equal another = true → (left.add right).equal (other.add another) = true
  subtract_respects : ∀ {left other right another : Value}, left.equal other = true →
    right.equal another = true → (left.subtract right).equal (other.subtract another) = true
  add_comm : ∀ left right : Value, (left.add right).equal (right.add left) = true
  add_assoc : ∀ left middle right : Value,
    ((left.add middle).add right).equal (left.add (middle.add right)) = true
  subtract_self : ∀ value : Value, (value.subtract value).equal empty = true
  subtract_add : ∀ left right : Value, ((left.add right).subtract right).equal left = true

theorem forms_group : FormsGroup where
  equivalence := by
    constructor
    · intro value
      rw [equal_iff_amounts]
      intro policy name
      rfl
    · intro left right equal
      rw [equal_iff_amounts] at equal ⊢
      intro policy name
      exact (equal policy name).symm
    · intro left middle right before after
      rw [equal_iff_amounts] at before after ⊢
      intro policy name
      exact (before policy name).trans (after policy name)
  add_respects := by
    intro left other right another first second
    rw [equal_iff_amounts] at first second ⊢
    intro policy name
    rw [amount_add, amount_add, first, second]
  subtract_respects := by
    intro left other right another first second
    rw [equal_iff_amounts] at first second ⊢
    intro policy name
    rw [amount_subtract, amount_subtract, first, second]
  add_comm := by
    intro left right
    rw [equal_iff_amounts]
    intro policy name
    rw [amount_add, amount_add, Int.add_comm]
  add_assoc := by
    intro left middle right
    rw [equal_iff_amounts]
    intro policy name
    simp only [amount_add, Int.add_assoc]
  subtract_self := by
    intro value
    rw [equal_iff_amounts]
    intro policy name
    rw [amount_subtract, Int.sub_self, amount_empty]
  subtract_add := by
    intro left right
    rw [equal_iff_amounts]
    intro policy name
    rw [amount_subtract, amount_add, Int.add_sub_cancel]

end Value

namespace Arena

/-- The sum or the difference of two values is made after all that stands in memory, and nothing
there is changed, be it part of an operand or not. -/
structure CombinesApart (arena : Arena) (sign : Int) (left right : Nat) : Prop where
  made : (arena.combine sign left right).read arena.values.length =
    Value.combine sign (arena.read left) (arena.read right)
  cells : arena.cells <+: (arena.combine sign left right).cells
  values : arena.values <+: (arena.combine sign left right).values
  kept : ∀ older < arena.values.length,
    (arena.combine sign left right).read older = arena.read older

theorem combines_apart {arena : Arena} (sound : arena.IsSound) (sign : Int) {left right : Nat}
    (leftThere : left < arena.values.length) (rightThere : right < arena.values.length) :
    arena.CombinesApart sign left right := by
  have building := building_of_combine sound sign leftThere rightThere
  exact {
    made := building.reads
    cells := building.cells
    values := building.values
    kept := fun _ there => building.read_before sound there }

/-- Two values share the cell of one policy, and one of them has it for two policies. -/
def sharing : Arena where
  cells := [OrderedMap.ofList [("token", 3), ("other", 0)], OrderedMap.empty]
  values := [OrderedMap.ofList [("first", 0), ("second", 0)],
    OrderedMap.ofList [("second", 0), ("third", 1)]]

end Arena

namespace Value

/-- Values are equal if they hold the same of every asset, with nothing said as good as nothing
held. Sums and differences are taken amount by amount, so that values form a commutative group,
and making them leaves the operands alone. -/
theorem values_form_group :
    (∀ left right : Value, left.equal right = true ↔
      ∀ policy name, left.amount policy name = right.amount policy name) ∧
    (∀ (left right : Value) (policy name : String),
      (left.add right).amount policy name =
          left.amount policy name + right.amount policy name ∧
        (left.subtract right).amount policy name =
          left.amount policy name - right.amount policy name) ∧
    FormsGroup ∧
    ∀ (arena : Arena) (left right : Nat), arena.IsSound → left < arena.values.length →
      right < arena.values.length →
        arena.CombinesApart 1 left right ∧ arena.CombinesApart (-1) left right := by
  refine ⟨equal_iff_amounts, ?_, forms_group, ?_⟩
  · intro left right policy name
    exact ⟨amount_add left right policy name, amount_subtract left right policy name⟩
  · intro arena left right sound leftThere rightThere
    exact ⟨Arena.combines_apart sound 1 leftThere rightThere,
      Arena.combines_apart sound (-1) leftThere rightThere⟩

theorem values_form_group_of_sharing :
    Arena.sharing.IsSound ∧ Arena.sharing.CombinesApart 1 0 1 ∧
      Arena.sharing.CombinesApart (-1) 0 0 ∧
      ((Arena.sharing.combine (-1) 0 0).read 2).equal Value.empty = true := by
  have sound : Arena.sharing.IsSound := by
    unfold Arena.IsSound
    decide +kernel
  obtain ⟨-, -, group, apart⟩ := values_form_group
  have sum := (apart Arena.sharing 0 1 sound (by decide) (by decide)).1
  have difference := (apart Arena.sharing 0 0 sound (by decide) (by decide)).2
  refine ⟨sound, sum, difference, ?_⟩
  rw [show (2 : Nat) = Arena.sharing.values.length from rfl, difference.made]
  exact group.subtract_self (Arena.sharing.read 0)

end Value

end NodeBridge
