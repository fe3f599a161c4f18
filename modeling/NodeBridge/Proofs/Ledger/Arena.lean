import Mathlib.Data.List.GetD
import Mathlib.Data.List.Nodup
import NodeBridge.Ledger.Arena
import NodeBridge.Proofs.Ledger.Amount

/-!
Sums of values in memory. What is made in place reads as the sum of what the operands read, and
nothing that stood in memory before is changed, whatever cells the operands share.
-/

namespace NodeBridge

namespace Value

theorem deposit_of_no_policy {value : Value} {policy : String}
    (absent : value.policies.find? policy = none) (name : String) (amount : Int) :
    (Value.mk (value.policies.insert policy OrderedMap.empty)).deposit policy name amount =
      value.deposit policy name amount := by
  unfold deposit put Value.amount holdings
  simp only [OrderedMap.find_insert, if_true, absent, Option.getD_none, Option.getD_some,
    OrderedMap.insert_insert]

theorem combine_eq_foldl (sign : Int) (value : Value) (policies : OrderedMap String Holdings) :
    combine sign value ⟨policies⟩ =
      policies.entries.foldl (fun value policy =>
        policy.2.entries.foldl
          (fun value asset => value.deposit policy.1 asset.1 (sign * asset.2)) value) value := by
  unfold combine entries
  rw [List.foldl_flatMap]
  simp only [List.foldl_map]

end Value

namespace Arena

/-! What an operation leaves in the cells and in the values. -/

theorem holdings_attach (arena : Arena) (value : Nat) (policy : String) (holdings : Holdings)
    (cell : Nat) :
    (arena.attach value policy holdings).holdings cell =
      if cell = arena.cells.length then holdings else arena.holdings cell := by
  unfold Arena.holdings Arena.attach
  rcases Nat.lt_trichotomy cell arena.cells.length with before | rfl | after
  · rw [if_neg (Nat.ne_of_lt before), List.getD_append _ _ _ _ before]
  · rw [if_pos rfl, List.getD_append_right _ _ _ _ (Nat.le_refl _), Nat.sub_self]
    rfl
  · have beyond : (arena.cells ++ [holdings]).length ≤ cell := by
      rw [List.length_append, List.length_singleton]
      omega
    rw [if_neg (Nat.ne_of_gt after), List.getD_eq_default _ _ beyond,
      List.getD_eq_default _ _ (Nat.le_of_lt after)]

theorem layout_attach {arena : Arena} {value : Nat} (there : value < arena.values.length)
    (policy : String) (holdings : Holdings) :
    (arena.attach value policy holdings).layout value =
      (arena.layout value).insert policy arena.cells.length := by
  simp [Arena.layout, Arena.attach, List.getD_eq_getElem?_getD, there]

theorem holdings_increase {arena : Arena} {cell : Nat} (there : cell < arena.cells.length)
    (name : String) (amount : Int) (other : Nat) :
    (arena.increase cell name amount).holdings other =
      if other = cell then
        (arena.holdings cell).insert name (((arena.holdings cell).find? name).getD 0 + amount)
      else arena.holdings other := by
  unfold Arena.increase
  by_cases same : other = cell
  · subst same
    rw [if_pos rfl]
    simp [Arena.holdings, List.getD_eq_getElem?_getD, there]
  · rw [if_neg same]
    simp [Arena.holdings, List.getD_eq_getElem?_getD, List.getElem?_set_ne (Ne.symm same)]

/-- Every value leads to cells that there are. -/
def IsSound (arena : Arena) : Prop :=
  ∀ layout ∈ arena.values, ∀ entry ∈ layout.entries, entry.2 < arena.cells.length

theorem cells_of_layout {arena : Arena} (sound : arena.IsSound) {value : Nat}
    (there : value < arena.values.length) :
    ∀ entry ∈ (arena.layout value).entries, entry.2 < arena.cells.length := by
  apply sound
  unfold Arena.layout
  rw [List.getD_eq_getElem _ _ there]
  exact List.getElem_mem there

/-- A new value is under way. All that was there is untouched, and the new value has cells of its
own, one for each policy. -/
structure Building (start arena : Arena) (value : Value) : Prop where
  cells : start.cells <+: arena.cells
  values : start.values <+: arena.values
  last : arena.values.length = start.values.length + 1
  own : ∀ entry ∈ (arena.layout start.values.length).entries,
    start.cells.length ≤ entry.2 ∧ entry.2 < arena.cells.length
  apart : ((arena.layout start.values.length).entries.map Prod.snd).Nodup
  reads : arena.read start.values.length = value

section Building

variable {start arena : Arena} {value : Value}

theorem Building.here (building : Building start arena value) :
    start.values.length < arena.values.length := by
  rw [building.last]
  exact Nat.lt_succ_self _

theorem Building.holdings_before (building : Building start arena value) {cell : Nat}
    (there : cell < start.cells.length) : arena.holdings cell = start.holdings cell := by
  obtain ⟨added, cells⟩ := building.cells
  unfold Arena.holdings
  rw [← cells, List.getD_append _ _ _ _ there]

theorem Building.layout_before (building : Building start arena value) {older : Nat}
    (there : older < start.values.length) : arena.layout older = start.layout older := by
  obtain ⟨added, values⟩ := building.values
  unfold Arena.layout
  rw [← values, List.getD_append _ _ _ _ there]

/-- A value that was there before reads as it did. -/
theorem Building.read_before (building : Building start arena value) (sound : start.IsSound)
    {older : Nat} (there : older < start.values.length) : arena.read older = start.read older := by
  unfold Arena.read
  rw [building.layout_before there]
  apply congrArg Value.mk
  apply OrderedMap.map_congr
  intro entry member
  exact building.holdings_before (cells_of_layout sound there entry member)

theorem Building.find_policy (building : Building start arena value) (policy : String) :
    value.policies.find? policy =
      ((arena.layout start.values.length).find? policy).map arena.holdings := by
  rw [← building.reads]
  exact OrderedMap.find_map _ _ _

theorem Building.attach (building : Building start arena value) {policy : String}
    (absent : (arena.layout start.values.length).find? policy = none) (holdings : Holdings) :
    Building start (arena.attach start.values.length policy holdings)
      ⟨value.policies.insert policy holdings⟩ := by
  have layout := layout_attach building.here policy holdings
  have entries : ((arena.layout start.values.length).insert policy arena.cells.length).entries =
      (arena.layout start.values.length).entries ++ [(policy, arena.cells.length)] :=
    put_entry_of_not_mem _ _ (OrderedMap.not_mem_keys_of_find absent)
  have length : (arena.attach start.values.length policy holdings).cells.length =
      arena.cells.length + 1 := by
    simp [Arena.attach]
  constructor
  · exact building.cells.trans (List.prefix_append _ _)
  · obtain ⟨added, values⟩ := building.values
    unfold Arena.attach
    rw [← values, List.set_append_right _ _ (Nat.le_refl _)]
    exact List.prefix_append _ _
  · unfold Arena.attach
    rw [List.length_set, building.last]
  · intro entry member
    rw [layout, entries, List.mem_append, List.mem_singleton] at member
    rw [length]
    rcases member with before | rfl
    · have bounds := building.own entry before
      omega
    · exact ⟨building.cells.length_le, Nat.lt_succ_self _⟩
  · rw [layout, entries, List.map_append, List.nodup_append]
    refine ⟨building.apart, List.nodup_singleton _, ?_⟩
    intro cell member other single same
    obtain ⟨entry, held, rfl⟩ := List.mem_map.mp member
    have bounds := building.own entry held
    simp only [List.map_cons, List.map_nil, List.mem_singleton] at single
    omega
  · have before : ∀ entry ∈ (arena.layout start.values.length).entries,
        (arena.attach start.values.length policy holdings).holdings entry.2 =
          arena.holdings entry.2 := by
      intro entry member
      rw [holdings_attach, if_neg (Nat.ne_of_lt (building.own entry member).2)]
    have reads := building.reads
    unfold Arena.read at reads ⊢
    rw [layout, OrderedMap.map_insert, holdings_attach, if_pos rfl, OrderedMap.map_congr before,
      ← reads]

theorem Building.increase (building : Building start arena value) {policy : String} {cell : Nat}
    (found : (arena.layout start.values.length).find? policy = some cell) (name : String)
    (amount : Int) :
    Building start (arena.increase cell name amount) (value.deposit policy name amount) := by
  have member : (policy, cell) ∈ (arena.layout start.values.length).entries :=
    ((arena.layout start.values.length).find_eq_some_iff policy cell).mp found
  have bounds := building.own _ member
  have length : (arena.increase cell name amount).cells.length = arena.cells.length := by
    simp [Arena.increase]
  constructor
  · obtain ⟨added, cells⟩ := building.cells
    unfold Arena.increase
    dsimp only
    rw [← cells, List.set_append_right _ _ bounds.1]
    exact List.prefix_append _ _
  · exact building.values
  · exact building.last
  · rw [length]
    exact building.own
  · exact building.apart
  · have others : ∀ entry ∈ (arena.layout start.values.length).entries, entry.1 ≠ policy →
        (arena.increase cell name amount).holdings entry.2 = arena.holdings entry.2 := by
      intro entry there different
      have elsewhere : entry.2 ≠ cell := by
        intro same
        have one := List.inj_on_of_nodup_map building.apart there member same
        exact different (congrArg Prod.fst one)
      rw [holdings_increase bounds.2, if_neg elsewhere]
    have replaced := OrderedMap.map_eq_insert found others
    rw [holdings_increase bounds.2, if_pos rfl] at replaced
    have held : value.policies.find? policy = some (arena.holdings cell) := by
      rw [building.find_policy, found]
      rfl
    have reads := building.reads
    unfold Arena.read at reads
    unfold Arena.read Value.deposit Value.put Value.amount Value.holdings
    rw [held, Option.getD_some, ← reads]
    exact congrArg Value.mk replaced

theorem Building.deposit (building : Building start arena value) (policy name : String)
    (amount : Int) :
    Building start (arena.deposit start.values.length policy name amount)
      (value.deposit policy name amount) := by
  unfold Arena.deposit
  cases found : (arena.layout start.values.length).find? policy with
  | some cell => exact building.increase found name amount
  | none =>
      have there : ((arena.attach start.values.length policy OrderedMap.empty).layout
          start.values.length).find? policy = some arena.cells.length := by
        rw [layout_attach building.here, OrderedMap.find_insert, if_pos rfl]
      have absent : value.policies.find? policy = none := by
        rw [building.find_policy, found]
        rfl
      rw [← Value.deposit_of_no_policy absent]
      exact (building.attach found OrderedMap.empty).increase there name amount

/-! A copy is made cell by cell, and then takes up amounts one by one. -/

theorem Building.attach_all (building : Building start arena value)
    {entries : List (String × Nat)} (there : ∀ entry ∈ entries, entry.2 < start.cells.length)
    (distinct : (value.policies.keys ++ entries.map Prod.fst).Nodup) :
    Building start
      (entries.foldl (fun grown entry =>
        grown.attach start.values.length entry.1 (grown.holdings entry.2)) arena)
      ⟨entries.foldl (fun policies entry => policies.insert entry.1 (start.holdings entry.2))
        value.policies⟩ := by
  induction entries generalizing arena value with
  | nil => exact building
  | cons entry entries induction =>
      rw [List.map_cons] at distinct
      have unnamed : entry.1 ∉ value.policies.keys := by
        intro member
        rw [List.nodup_append] at distinct
        exact distinct.2.2 entry.1 member entry.1 List.mem_cons_self rfl
      have absent : (arena.layout start.values.length).find? entry.1 = none := by
        have none : value.policies.find? entry.1 = none := Value.lookup_of_not_mem unnamed
        rw [building.find_policy, Option.map_eq_none_iff] at none
        exact none
      have attached := building.attach absent (arena.holdings entry.2)
      rw [building.holdings_before (there entry List.mem_cons_self)] at attached
      have keys := OrderedMap.keys_insert_new unnamed (start.holdings entry.2)
      have still : ((value.policies.insert entry.1 (start.holdings entry.2)).keys ++
          entries.map Prod.fst).Nodup := by
        rw [keys, List.append_assoc]
        exact distinct
      rw [List.foldl_cons, List.foldl_cons,
        building.holdings_before (there entry List.mem_cons_self)]
      exact induction attached (fun later member => there later (List.mem_cons_of_mem _ member))
        still

theorem building_opened (start : Arena) :
    Building start { start with values := start.values ++ [OrderedMap.empty] } Value.empty := by
  have layout : Arena.layout { start with values := start.values ++ [OrderedMap.empty] }
      start.values.length = OrderedMap.empty := by
    unfold Arena.layout
    rw [List.getD_append_right _ _ _ _ (Nat.le_refl _), Nat.sub_self]
    rfl
  constructor
  · exact List.prefix_refl _
  · exact List.prefix_append _ _
  · exact List.length_append
  · rw [layout]
    intro entry member
    cases member
  · rw [layout]
    exact List.nodup_nil
  · unfold Arena.read
    rw [layout]
    rfl

theorem building_of_copy (sound : start.IsSound) {original : Nat}
    (there : original < start.values.length) :
    Building start (start.copy original) (start.read original) := by
  have copied := (building_opened start).attach_all (cells_of_layout sound there)
    (start.layout original).distinct
  have policies : (start.layout original).entries.foldl
      (fun policies entry => policies.insert entry.1 (start.holdings entry.2))
        Value.empty.policies = (start.layout original).map start.holdings := by
    have again := OrderedMap.of_list_entries ((start.layout original).map start.holdings)
    unfold OrderedMap.ofList OrderedMap.map at again
    rw [List.foldl_map] at again
    exact again
  rw [policies] at copied
  exact copied

theorem Building.deposit_all (building : Building start arena value) (sign : Int)
    (policy : String) (assets : List (String × Int)) :
    Building start
      (assets.foldl (fun grown asset =>
        grown.deposit start.values.length policy asset.1 (sign * asset.2)) arena)
      (assets.foldl (fun value asset => value.deposit policy asset.1 (sign * asset.2)) value) := by
  induction assets generalizing arena value with
  | nil => exact building
  | cons asset assets induction => exact induction (building.deposit policy asset.1 _)

theorem Building.take_up_all (building : Building start arena value) (sign : Int)
    {entries : List (String × Nat)} (there : ∀ entry ∈ entries, entry.2 < start.cells.length) :
    Building start
      (entries.foldl (fun grown entry => grown.takeUp sign start.values.length entry) arena)
      (entries.foldl (fun value entry =>
        (start.holdings entry.2).entries.foldl
          (fun value asset => value.deposit entry.1 asset.1 (sign * asset.2)) value) value) := by
  induction entries generalizing arena value with
  | nil => exact building
  | cons entry entries induction =>
      rw [List.foldl_cons, List.foldl_cons]
      apply induction
      · unfold Arena.takeUp
        rw [building.holdings_before (there entry List.mem_cons_self)]
        exact building.deposit_all sign entry.1 _
      · intro later member
        exact there later (List.mem_cons_of_mem _ member)

end Building

variable {arena : Arena}

/-- The sum is made as the value after all others, which reads as the sum of what the operands
read. -/
theorem building_of_combine (sound : arena.IsSound) (sign : Int) {left right : Nat}
    (leftThere : left < arena.values.length) (rightThere : right < arena.values.length) :
    Building arena (arena.combine sign left right)
      (Value.combine sign (arena.read left) (arena.read right)) := by
  have copied := building_of_copy sound leftThere
  have whole := copied.take_up_all sign (cells_of_layout sound rightThere)
  have combined : Value.combine sign (arena.read left) (arena.read right) =
      (arena.layout right).entries.foldl (fun value entry =>
        (arena.holdings entry.2).entries.foldl
          (fun value asset => value.deposit entry.1 asset.1 (sign * asset.2)) value)
        (arena.read left) := by
    have folded := Value.combine_eq_foldl sign (arena.read left)
      ((arena.layout right).map arena.holdings)
    unfold OrderedMap.map at folded
    rw [List.foldl_map] at folded
    exact folded
  rw [combined]
  unfold Arena.combine
  dsimp only
  rw [copied.layout_before rightThere]
  exact whole

end Arena

end NodeBridge
