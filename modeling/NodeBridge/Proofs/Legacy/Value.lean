import NodeBridge.Legacy.Value
import NodeBridge.Proofs.Document.Printed
import NodeBridge.Proofs.Ledger.Amount
import NodeBridge.Proofs.Ledger.Asset

/-!
Values in the legacy schema. A value whose names hold no point keeps all of its amounts on
the way into the legacy schema and back, and a printed legacy value is read back as it was.
-/

namespace NodeBridge

/-- A policy and a name without a point, which can be joined and taken apart again. -/
def Holding.IsPlain (entry : Holding) : Prop :=
  '.' ∉ entry.policy.toList ∧ '.' ∉ entry.name.toList

instance (entry : Holding) : Decidable entry.IsPlain := inferInstanceAs (Decidable (_ ∧ _))

/-- A value whose policies and names hold no point. -/
def Value.IsPlain (value : Value) : Prop := ∀ entry ∈ value.entries, entry.IsPlain

/-- A value that holds no asset but lovelace. -/
def Value.IsAdaOnly (value : Value) : Prop :=
  ∀ policy name, (policy, name) ≠ (adaPolicy, lovelaceName) → value.amount policy name = 0

theorem Value.equal_of_lovelace {value : Value} (only : value.IsAdaOnly) :
    (Value.ofLovelace value.lovelace).equal value = true := by
  apply equal_of_amounts
  intro policy name
  rw [amount_of_coins_ada]
  by_cases ada : (policy, name) = (adaPolicy, lovelaceName)
  · rw [if_pos ada, lovelace_eq_amount]
    rw [Prod.mk.injEq] at ada
    rw [ada.1, ada.2]
  · rw [if_neg ada, only policy name ada]

namespace Legacy.FlatValue

open Json Decode

/-- An identifier whose name holds no point is taken apart at its first point. -/
theorem split_of_short {id : String} (short : '.' ∉ (AssetId.mk id).name.toList) :
    splitAsset id = ((AssetId.mk id).policy, (AssetId.mk id).name) := by
  rw [AssetId.name, String.toList_ofList] at short
  have nameless : ((id.toList.dropWhile (· ≠ '.')).drop 1).contains '.' = false :=
    Bool.eq_false_iff.mpr fun found => short (List.contains_iff_mem.mp found)
  simp only [splitAsset, nameless, Bool.false_eq_true, if_false]
  rfl

/-- A joined identifier is taken apart into what was joined. -/
theorem split_join {policy name : String} (policyFree : '.' ∉ policy.toList)
    (nameFree : '.' ∉ name.toList) :
    splitAsset (AssetId.join policy name).text = (policy, name) := by
  obtain ⟨samePolicy, sameName⟩ := AssetId.parts_of_join policyFree name
  have short : '.' ∉ (AssetId.join policy name).name.toList := by
    rw [sameName]
    exact nameFree
  exact (split_of_short short).trans (Prod.ext samePolicy sameName)

def joined (entry : Holding) : String := (AssetId.join entry.policy entry.name).text

def isOther (entry : Holding) : Bool := entry.asset ≠ (adaPolicy, lovelaceName)

theorem split_joined {entry : Holding} (plain : entry.IsPlain) :
    splitAsset (joined entry) = entry.asset := split_join plain.1 plain.2

theorem nodup_joined {entries : List Holding} (plain : ∀ entry ∈ entries, entry.IsPlain)
    (distinct : (entries.map Holding.asset).Nodup) : (entries.map joined).Nodup := by
  have split : (entries.map joined).map splitAsset = entries.map Holding.asset := by
    rw [List.map_map]
    apply List.map_congr_left
    intro entry member
    exact split_joined (plain entry member)
  rw [← split] at distinct
  exact List.Nodup.of_map splitAsset distinct

def note (result : FlatValue) (entry : Holding) : FlatValue :=
  if entry.policy = adaPolicy ∧ entry.name = lovelaceName then
    { result with coins := entry.amount }
  else { result with assets := result.assets.insert (joined entry) entry.amount }

theorem note_ada (result : FlatValue) {entry : Holding}
    (ada : entry.asset = (adaPolicy, lovelaceName)) :
    note result entry = { result with coins := entry.amount } := by
  rw [Holding.asset, Prod.mk.injEq] at ada
  rw [note, if_pos ada]

theorem note_other (result : FlatValue) {entry : Holding} (other : isOther entry = true) :
    note result entry =
      { result with assets := result.assets.insert (joined entry) entry.amount } := by
  have different : ¬(entry.policy = adaPolicy ∧ entry.name = lovelaceName) := by
    intro ada
    have same : entry.asset ≠ (adaPolicy, lovelaceName) := of_decide_eq_true other
    exact same (Prod.ext ada.1 ada.2)
  rw [note, if_neg different]

theorem coins_foldl_note {entries : List Holding}
    (distinct : (entries.map Holding.asset).Nodup) (start : FlatValue) :
    (entries.foldl note start).coins =
      ((Value.keyed entries).lookup (adaPolicy, lovelaceName)).getD start.coins := by
  induction entries generalizing start with
  | nil => rfl
  | cons entry entries induction =>
      rw [List.map_cons, List.nodup_cons] at distinct
      have head : Value.keyed (entry :: entries) =
          (entry.asset, entry.amount) :: Value.keyed entries := rfl
      rw [List.foldl_cons, induction distinct.2, head, lookup_cons_entry]
      by_cases ada : entry.asset = (adaPolicy, lovelaceName)
      · have absent : (Value.keyed entries).lookup (adaPolicy, lovelaceName) = none := by
          apply Value.lookup_of_not_mem
          rw [Value.keys_keyed, ← ada]
          exact distinct.1
        rw [note_ada start ada, absent, if_pos ada.symm]
        rfl
      · have other : isOther entry = true := decide_eq_true ada
        rw [note_other start other, if_neg fun same => ada same.symm]

theorem assets_foldl_note {entries : List Holding} (start : FlatValue)
    (apart : (start.assets.entries.map Prod.fst ++
      (entries.filter isOther).map joined).Nodup) :
    (entries.foldl note start).assets.entries = start.assets.entries ++
      (entries.filter isOther).map fun entry => (joined entry, entry.amount) := by
  induction entries generalizing start with
  | nil => simp
  | cons entry entries induction =>
      rw [List.foldl_cons]
      cases other : isOther entry with
      | false =>
          have ada : entry.asset = (adaPolicy, lovelaceName) := by simpa [isOther] using other
          have passed : (entry :: entries).filter isOther = entries.filter isOther := by
            rw [List.filter_cons, other, if_neg Bool.false_ne_true]
          rw [passed] at apart ⊢
          rw [note_ada start ada]
          exact induction _ apart
      | true =>
          have taken : (entry :: entries).filter isOther = entry :: entries.filter isOther := by
            rw [List.filter_cons, other, if_pos rfl]
          rw [taken, List.map_cons] at apart ⊢
          have absent : joined entry ∉ start.assets.entries.map Prod.fst := by
            intro member
            rw [List.nodup_append] at apart
            exact apart.2.2 _ member _ List.mem_cons_self rfl
          have grown : (note start entry).assets.entries =
              start.assets.entries ++ [(joined entry, entry.amount)] := by
            rw [note_other start other]
            exact put_entry_of_not_mem _ _ absent
          rw [induction _ (by rw [grown]; simpa using apart), grown]
          simp

/-- The legacy form of a value: its lovelace, and its other amounts in their order. -/
theorem of_current_spec {value : Value} (plain : value.IsPlain) :
    (ofCurrent value).coins = value.lovelace ∧
      (ofCurrent value).assets.entries =
        (value.entries.filter isOther).map fun entry => (joined entry, entry.amount) := by
  have distinct := value.nodup_entries
  have folded : ofCurrent value = value.entries.foldl note empty := rfl
  have apart : ((value.entries.filter isOther).map joined).Nodup := by
    apply nodup_joined
    · intro entry member
      exact plain entry (List.mem_of_mem_filter member)
    · exact distinct.sublist (List.filter_sublist.map Holding.asset)
  constructor
  · rw [folded, coins_foldl_note distinct, Value.lovelace_eq_amount, Value.amount_eq_lookup]
    rfl
  · rw [folded, assets_foldl_note empty apart]
    rfl

theorem amount_to_current_start (coins : Int) (policy name : String) :
    (if coins = 0 then Value.empty else Value.empty.put adaPolicy lovelaceName coins).amount
        policy name =
      if (policy, name) = (adaPolicy, lovelaceName) then coins else 0 := by
  by_cases none : coins = 0
  · rw [if_pos none, Value.amount_empty, none, ite_self]
  · rw [if_neg none, Value.amount_put, Value.amount_empty]

theorem lookup_filter_other (entries : List Holding) {asset : String × String}
    (other : asset ≠ (adaPolicy, lovelaceName)) :
    (Value.keyed (entries.filter isOther)).lookup asset =
      (Value.keyed entries).lookup asset := by
  induction entries with
  | nil => rfl
  | cons entry entries induction =>
      have head : Value.keyed (entry :: entries) =
          (entry.asset, entry.amount) :: Value.keyed entries := rfl
      rw [List.filter_cons, head, lookup_cons_entry]
      cases kept : isOther entry with
      | true =>
          have headKept : Value.keyed (entry :: entries.filter isOther) =
              (entry.asset, entry.amount) :: Value.keyed (entries.filter isOther) := rfl
          rw [if_pos rfl, headKept, lookup_cons_entry, induction]
      | false =>
          have ada : entry.asset = (adaPolicy, lovelaceName) := by simpa [isOther] using kept
          rw [if_neg Bool.false_ne_true, induction, ada, if_neg other]

/-- A value without points in its names keeps its amounts through the legacy schema. -/
theorem amount_to_current_of_current {value : Value} (plain : value.IsPlain)
    (policy name : String) :
    (ofCurrent value).toCurrent.amount policy name = value.amount policy name := by
  obtain ⟨coins, assets⟩ := of_current_spec plain
  have writes : ((value.entries.filter isOther).map fun entry =>
      (joined entry, entry.amount)).map (fun entry => (splitAsset entry.1, entry.2)) =
        Value.keyed (value.entries.filter isOther) := by
    rw [List.map_map]
    apply List.map_congr_left
    intro entry member
    have split := split_joined (plain entry (List.mem_of_mem_filter member))
    simp only [Function.comp_apply, split]
  have distinct : ((Value.keyed (value.entries.filter isOther)).map Prod.fst).Nodup := by
    rw [Value.keys_keyed]
    exact value.nodup_entries.sublist (List.filter_sublist.map Holding.asset)
  have folded : (ofCurrent value).toCurrent =
      (Value.keyed (value.entries.filter isOther)).foldl
        (fun result write => result.put write.1.1 write.1.2 write.2)
        (if (ofCurrent value).coins = 0 then Value.empty
          else Value.empty.put adaPolicy lovelaceName (ofCurrent value).coins) := by
    rw [← writes, List.foldl_map, ← assets]
    rfl
  rw [folded, Value.amount_foldl_put distinct, amount_to_current_start, coins]
  by_cases ada : (policy, name) = (adaPolicy, lovelaceName)
  · have absent : (Value.keyed (value.entries.filter isOther)).lookup (policy, name) = none := by
      apply Value.lookup_of_not_mem
      rw [Value.keys_keyed, ada]
      intro member
      rw [List.mem_map] at member
      obtain ⟨entry, kept, same⟩ := member
      have other := (List.mem_filter.mp kept).2
      rw [isOther, same] at other
      simp at other
    rw [absent, if_pos ada, Value.lovelace_eq_amount]
    rw [Prod.mk.injEq] at ada
    rw [ada.1, ada.2]
    rfl
  · rw [lookup_filter_other _ ada, if_neg ada, Value.amount_eq_lookup]

theorem equal_to_current_of_current {value : Value} (plain : value.IsPlain) :
    (ofCurrent value).toCurrent.equal value = true :=
  Value.equal_of_amounts (amount_to_current_of_current plain)

theorem is_bare_to_json (value : FlatValue) : value.toJson.isBare = false := by
  simp [toJson, isBare]

theorem of_json_to_json (value : FlatValue) : ofJson value.toJson = .ok value := by
  have assets : Decode.map "value.assets"
      (fun id amount => integer ("value.assets." ++ id) amount) (Json.ofMap .int value.assets) =
        .ok value.assets :=
    map_of_map_same "value.assets" fun entry _ => integer_int _ entry.2
  unfold ofJson toJson
  by_cases none : value.coins = 0
  · obtain ⟨coins, all⟩ := value
    subst none
    simp [get_cons, assets]
    rfl
  · simp [get_cons, assets, none]

end Legacy.FlatValue

end NodeBridge
