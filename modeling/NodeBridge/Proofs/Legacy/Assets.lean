import NodeBridge.Proofs.Ledger.Printed
import NodeBridge.Proofs.Legacy.Value

/-!
Legacy values on the way into the current schema and back. Every identifier of an asset is taken
apart and joined again, and its amount comes back under it. The order may change, for the current
schema keeps the assets of one policy together.
-/

namespace NodeBridge

namespace Legacy

/-- The identifier of an asset other than lovelace, with or without a name. -/
def IsAssetId (id : String) : Prop :=
  id ≠ adaAssetId.text ∧ ∃ policy name, '.' ∉ policy.toList ∧ '.' ∉ name.toList ∧
    id = (AssetId.join policy name).text

namespace FlatValue

def IsRegular (value : FlatValue) : Prop := ∀ id ∈ value.assets.keys, IsAssetId id

/-- Values that hold the same, but for the order of their assets. -/
structure Agree (back origin : FlatValue) : Prop where
  coins : back.coins = origin.coins
  assets : back.assets.Same origin.assets

/-- A holding under the identifier of its asset. -/
theorem split_of_is_asset_id {id : String} (regular : IsAssetId id) (amount : Int) :
    let entry : Holding := ⟨(splitAsset id).1, (splitAsset id).2, amount⟩
    entry.IsPlain ∧ isOther entry = true ∧ joined entry = id := by
  obtain ⟨other, policy, name, policyFree, nameFree, rfl⟩ := regular
  rw [split_join policyFree nameFree]
  refine ⟨⟨policyFree, nameFree⟩, ?_, rfl⟩
  apply decide_eq_true
  intro ada
  obtain ⟨rfl, rfl⟩ := Prod.mk.inj ada
  exact other rfl

/-- What is written into the current form of a value, by policy and name. -/
def writes (value : FlatValue) : List ((String × String) × Int) :=
  value.assets.entries.map fun entry => (splitAsset entry.1, entry.2)

variable {value : FlatValue}

theorem nodup_writes (regular : value.IsRegular) : (value.writes.map Prod.fst).Nodup := by
  have rejoined : ((value.writes.map Prod.fst).map fun asset =>
      joined ⟨asset.1, asset.2, 0⟩) = value.assets.keys := by
    unfold writes OrderedMap.keys
    rw [List.map_map, List.map_map]
    apply List.map_congr_left
    intro entry member
    obtain ⟨-, -, same⟩ := split_of_is_asset_id (regular _ (List.mem_map_of_mem member)) 0
    exact same
  apply List.Nodup.of_map (fun asset => joined ⟨asset.1, asset.2, 0⟩)
  rw [rejoined]
  exact value.assets.distinct

theorem ada_not_written (regular : value.IsRegular) :
    (adaPolicy, lovelaceName) ∉ value.writes.map Prod.fst := by
  intro member
  unfold writes at member
  rw [List.map_map, List.mem_map] at member
  obtain ⟨entry, there, split⟩ := member
  obtain ⟨-, other, -⟩ := split_of_is_asset_id (regular _ (List.mem_map_of_mem there)) 0
  exact of_decide_eq_true other split

theorem of_mem_writes (regular : value.IsRegular) {entry : Holding}
    (written : (entry.asset, entry.amount) ∈ value.writes) :
    entry.IsPlain ∧ (joined entry, entry.amount) ∈ value.assets.entries := by
  unfold writes at written
  rw [List.mem_map] at written
  obtain ⟨⟨id, amount⟩, there, same⟩ := written
  obtain ⟨plain, -, rejoined⟩ :=
    split_of_is_asset_id (regular id (List.mem_map_of_mem there)) amount
  have asset : splitAsset id = (entry.policy, entry.name) := (Prod.mk.inj same).1
  have held : amount = entry.amount := (Prod.mk.inj same).2
  rw [asset, held] at plain rejoined
  refine ⟨plain, ?_⟩
  rw [show joined entry = id from rejoined, ← held]
  exact there

theorem to_current_eq_foldl (value : FlatValue) :
    value.toCurrent = value.writes.foldl
      (fun result write => result.put write.1.1 write.1.2 write.2)
      (if value.coins = 0 then Value.empty
        else Value.empty.put adaPolicy lovelaceName value.coins) := by
  unfold writes
  rw [List.foldl_map]
  rfl

theorem lovelace_to_current (regular : value.IsRegular) :
    value.toCurrent.lovelace = value.coins := by
  have absent := Value.lookup_of_not_mem (ada_not_written regular)
  rw [Value.lovelace_eq_amount, to_current_eq_foldl, Value.amount_foldl_put (nodup_writes regular),
    absent, amount_to_current_start]
  rfl

theorem names_to_current_start (coins : Int) (policy name : String) :
    (if coins = 0 then Value.empty else Value.empty.put adaPolicy lovelaceName coins).Names
        policy name ↔ coins ≠ 0 ∧ (policy, name) = (adaPolicy, lovelaceName) := by
  by_cases none : coins = 0
  · simp [none, Value.not_names_empty]
  · rw [if_neg none, Value.names_put_iff, or_iff_left (Value.not_names_empty policy name)]
    exact ⟨fun same => ⟨none, same.symm⟩, fun ada => ada.2.symm⟩

/-- The current form of a value holds the lovelace, if there is any, and each asset. -/
theorem mem_entries_to_current (regular : value.IsRegular) (entry : Holding) :
    entry ∈ value.toCurrent.entries ↔ (entry.asset, entry.amount) ∈ value.writes ∨
      value.coins ≠ 0 ∧ entry = ⟨adaPolicy, lovelaceName, value.coins⟩ := by
  have distinct := nodup_writes regular
  obtain ⟨policy, name, amount⟩ := entry
  rw [Value.mem_entries_iff, to_current_eq_foldl, Value.names_foldl_put_iff,
    Value.amount_foldl_put distinct, amount_to_current_start, names_to_current_start,
    ← lookup_eq_some_iff_mem distinct]
  by_cases written : (policy, name) ∈ value.writes.map Prod.fst
  · have other : (policy, name) ≠ (adaPolicy, lovelaceName) := by
      intro ada
      exact ada_not_written regular (ada ▸ written)
    obtain ⟨write, member, key⟩ := List.mem_map.mp written
    have found : value.writes.lookup (policy, name) = some write.2 := by
      rw [lookup_eq_some_iff_mem distinct, ← key]
      exact member
    have named : (⟨policy, name, amount⟩ : Holding) ≠ ⟨adaPolicy, lovelaceName, value.coins⟩ := by
      intro same
      cases same
      exact other rfl
    simp [Holding.asset, found, written, named]
  · have absent := Value.lookup_of_not_mem written
    simp only [Holding.asset, absent, written, false_or, reduceCtorEq, Option.getD_none,
      Holding.mk.injEq, Prod.mk.injEq]
    constructor
    · rintro ⟨⟨some, rfl, rfl⟩, same⟩
      rw [if_pos ⟨rfl, rfl⟩] at same
      exact ⟨some, rfl, rfl, same.symm⟩
    · rintro ⟨some, rfl, rfl, rfl⟩
      exact ⟨⟨some, rfl, rfl⟩, if_pos ⟨rfl, rfl⟩⟩

theorem is_plain_to_current (regular : value.IsRegular) : value.toCurrent.IsPlain := by
  intro entry member
  rcases (mem_entries_to_current regular entry).mp member with written | ⟨-, rfl⟩
  · exact (of_mem_writes regular written).1
  · show '.' ∉ adaPolicy.toList ∧ '.' ∉ lovelaceName.toList
    decide

/-- A value comes back with the coins and the assets that it had. -/
theorem agree_of_current_to_current (regular : value.IsRegular) :
    (ofCurrent value.toCurrent).Agree value := by
  obtain ⟨coins, assets⟩ := of_current_spec (is_plain_to_current regular)
  refine ⟨coins.trans (lovelace_to_current regular), OrderedMap.same_of_mem_iff ?_⟩
  intro id amount
  rw [assets, List.mem_map]
  constructor
  · rintro ⟨entry, member, same⟩
    obtain ⟨there, other⟩ := List.mem_filter.mp member
    rw [← same]
    rcases (mem_entries_to_current regular entry).mp there with written | ⟨-, rfl⟩
    · exact (of_mem_writes regular written).2
    · exact absurd rfl (of_decide_eq_true other)
  · intro member
    obtain ⟨-, other, rejoined⟩ :=
      split_of_is_asset_id (regular id (List.mem_map_of_mem member)) amount
    refine ⟨_, List.mem_filter.mpr ⟨?_, other⟩, Prod.ext rejoined rfl⟩
    rw [mem_entries_to_current regular]
    exact .inl (List.mem_map_of_mem member)

end FlatValue

end Legacy

end NodeBridge
