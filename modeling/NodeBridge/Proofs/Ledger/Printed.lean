import NodeBridge.Proofs.Document.Printed
import NodeBridge.Proofs.Ledger.Amount

/-!
Printed values. A value is read back as it was printed, with every policy and every name in
its place, also those without an amount. What a value names is what was written to it.
-/

namespace NodeBridge

theorem Decode.entries_of_map {α : Type} {read : String → Json → Decoded α} {write : α → Json}
    {map : OrderedMap String α}
    (reads : ∀ entry ∈ map.entries, read entry.1 (write entry.2) = .ok entry.2) :
    entries read (map.entries.map fun entry => (entry.1, write entry.2)) = .ok map.entries := by
  have again := @entries_map α α read write id map.entries reads
  rw [again]
  exact congrArg Except.ok (List.map_id map.entries)

namespace Value

theorem read_holdings_to_json (policy : String) (holdings : Holdings) :
    readHoldings policy (holdingsToJson holdings) = .ok holdings := by
  have amounts : Decode.entries (readAmount policy)
      (holdings.entries.map fun entry => (entry.1, Json.int entry.2)) = .ok holdings.entries :=
    Decode.entries_of_map fun _ _ => rfl
  unfold readHoldings holdingsToJson Json.ofMap
  simp only [amounts, Except.map, OrderedMap.of_list_entries]

theorem of_json_to_json (value : Value) : ofJson value.toJson = .ok value := by
  have policies : Decode.entries readHoldings
      (value.policies.entries.map fun entry => (entry.1, holdingsToJson entry.2)) =
        .ok value.policies.entries :=
    Decode.entries_of_map fun entry _ => read_holdings_to_json entry.1 entry.2
  unfold ofJson toJson Json.ofMap
  simp only [policies, Decode.ok_bind, OrderedMap.of_list_entries]

/-- An empty value is dropped when a document is printed, and a missing value is empty. -/
theorem of_json_settle (value : Value) : ofJson value.toJson.settle = .ok value := by
  cases bare : value.toJson.isBare with
  | false => rw [Json.settle_of_not_bare bare, of_json_to_json]
  | true =>
      have none : value.policies.entries = [] := by
        simpa [toJson, Json.ofMap, Json.isBare] using bare
      have same : value = empty := by
        cases value
        exact congrArg Value.mk (OrderedMap.ext_entries none)
      rw [Json.settle_of_bare bare, same]
      rfl

/-- Whether a value says something about an asset, be it an amount of zero. -/
def Names (value : Value) (policy name : String) : Prop :=
  ((value.policies.find? policy).bind fun holdings => holdings.find? name).isSome = true

theorem mem_entries_iff (value : Value) (entry : Holding) :
    entry ∈ value.entries ↔ value.Names entry.policy entry.name ∧
      value.amount entry.policy entry.name = entry.amount := by
  have listed : entry ∈ value.entries ↔
      (keyed value.entries).lookup (entry.policy, entry.name) = some entry.amount := by
    have distinct : ((keyed value.entries).map Prod.fst).Nodup := by
      rw [keys_keyed]
      exact value.nodup_entries
    rw [lookup_eq_some_iff_mem distinct, keyed, List.mem_map]
    constructor
    · intro member
      exact ⟨entry, member, rfl⟩
    · rintro ⟨other, member, same⟩
      obtain ⟨policy, name, amount⟩ := other
      cases same
      exact member
  have found := lookup_keyed_listed value.policies.distinct entry.policy entry.name
  have named : value.Names entry.policy entry.name ↔
      ((keyed value.entries).lookup (entry.policy, entry.name)).isSome = true := by
    rw [show keyed value.entries = keyed (Value.listed value.policies.entries) from rfl, found]
    exact Iff.rfl
  rw [listed, named, amount_eq_lookup]
  cases (keyed value.entries).lookup (entry.policy, entry.name) <;> simp

theorem not_names_empty (policy name : String) : ¬empty.Names policy name := by
  intro names
  cases names

theorem names_put_iff (value : Value) (policy name : String) (amount : Int)
    (other otherName : String) :
    (value.put policy name amount).Names other otherName ↔
      (policy, name) = (other, otherName) ∨ value.Names other otherName := by
  unfold Names put holdings
  rw [OrderedMap.find_insert]
  by_cases same : other = policy
  · subst same
    rw [if_pos rfl, Option.bind_some, OrderedMap.find_insert]
    by_cases sameName : otherName = name
    · simp [sameName]
    · have different : ¬name = otherName := fun equal => sameName equal.symm
      rw [if_neg sameName]
      cases value.policies.find? other with
      | none => simp [different, OrderedMap.find_empty]
      | some found => simp [different]
  · have different : ¬policy = other := fun equal => same equal.symm
    simp [same, different]

theorem names_foldl_put_iff (writes : List ((String × String) × Int)) (start : Value)
    (policy name : String) :
    (writes.foldl (fun value write => value.put write.1.1 write.1.2 write.2) start).Names
        policy name ↔
      (policy, name) ∈ writes.map Prod.fst ∨ start.Names policy name := by
  induction writes generalizing start with
  | nil => simp
  | cons write writes induction =>
      rw [List.foldl_cons, induction, names_put_iff, List.map_cons, List.mem_cons]
      constructor
      · rintro (later | same | before)
        · exact .inl (.inr later)
        · exact .inl (.inl same.symm)
        · exact .inr before
      · rintro ((same | later) | before)
        · exact .inr (.inl same.symm)
        · exact .inl later
        · exact .inr (.inr before)

end Value

end NodeBridge
