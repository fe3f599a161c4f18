import NodeBridge.Proofs.Legacy.Assets

/-!
Amounts on the way between the schemas. Where no name holds a point every amount is conserved, and
the legacy form of a value says all that it holds. An identifier with a second point is taken for
its policy alone, so its amount is conserved only if it is nothing and does not stand behind some
amount of that policy.
-/

namespace NodeBridge

namespace Legacy

namespace FlatValue

theorem is_regular_of_current {value : Value} (plain : value.IsPlain) :
    (ofCurrent value).IsRegular := by
  obtain ⟨-, assets⟩ := of_current_spec plain
  intro id member
  unfold OrderedMap.keys at member
  rw [assets, List.map_map, List.mem_map] at member
  obtain ⟨entry, kept, rfl⟩ := member
  obtain ⟨there, other⟩ := List.mem_filter.mp kept
  obtain ⟨policyFree, nameFree⟩ := plain entry there
  refine ⟨?_, entry.policy, entry.name, policyFree, nameFree, rfl⟩
  intro ada
  have split : splitAsset (joined entry) = entry.asset := split_joined ⟨policyFree, nameFree⟩
  rw [show joined entry = adaAssetId.text from ada, adaAssetId,
    split_join (by decide) (by decide)] at split
  exact of_decide_eq_true other split.symm

/-- Legacy values that agree have the same amounts in the current schema. -/
theorem amount_of_agree {left right : FlatValue} (leftRegular : left.IsRegular)
    (rightRegular : right.IsRegular) (agree : left.Agree right) (policy name : String) :
    left.toCurrent.amount policy name = right.toCurrent.amount policy name := by
  have entries (id : String) (amount : Int) :
      (id, amount) ∈ left.assets.entries ↔ (id, amount) ∈ right.assets.entries := by
    rw [← OrderedMap.find_eq_some_iff, ← OrderedMap.find_eq_some_iff, agree.assets]
  have written (write : (String × String) × Int) :
      write ∈ left.writes ↔ write ∈ right.writes := by
    unfold writes
    rw [List.mem_map, List.mem_map]
    constructor
    · rintro ⟨entry, member, rfl⟩
      exact ⟨entry, (entries entry.1 entry.2).mp member, rfl⟩
    · rintro ⟨entry, member, rfl⟩
      exact ⟨entry, (entries entry.1 entry.2).mpr member, rfl⟩
  have found : left.writes.lookup (policy, name) = right.writes.lookup (policy, name) := by
    apply Option.ext
    intro amount
    rw [lookup_eq_some_iff_mem (nodup_writes leftRegular),
      lookup_eq_some_iff_mem (nodup_writes rightRegular)]
    exact written _
  rw [to_current_eq_foldl, to_current_eq_foldl, Value.amount_foldl_put (nodup_writes leftRegular),
    Value.amount_foldl_put (nodup_writes rightRegular), found, agree.coins]

theorem equal_of_agree {left right : Value} (leftPlain : left.IsPlain)
    (rightPlain : right.IsPlain) (agree : (ofCurrent left).Agree (ofCurrent right)) :
    left.equal right = true := by
  apply Value.equal_of_amounts
  intro policy name
  rw [← amount_to_current_of_current leftPlain, ← amount_to_current_of_current rightPlain]
  exact amount_of_agree (is_regular_of_current leftPlain) (is_regular_of_current rightPlain) agree
    policy name

theorem names_lovelace_iff {value : FlatValue} (regular : value.IsRegular) :
    value.toCurrent.Names adaPolicy lovelaceName ↔ value.coins ≠ 0 := by
  rw [to_current_eq_foldl, Value.names_foldl_put_iff, names_to_current_start,
    or_iff_right (ada_not_written regular), and_iff_left rfl]

/-- A value whose names hold no point comes back equal from the legacy schema, where its coins are
its lovelace, so its legacy form settles it up to equality. A legacy value that names each asset by
a policy and perhaps a name comes back with the coins and the assets that it had, and lovelace is
named on the way only if there is some. -/
theorem amounts_conserved :
    (∀ value : Value, value.IsPlain →
      (ofCurrent value).toCurrent.equal value = true ∧
        (ofCurrent value).coins = value.lovelace) ∧
    (∀ left right : Value, left.IsPlain → right.IsPlain →
      (ofCurrent left).Agree (ofCurrent right) → left.equal right = true) ∧
    ∀ value : FlatValue, value.IsRegular →
      (ofCurrent value.toCurrent).Agree value ∧
        (value.toCurrent.Names adaPolicy lovelaceName ↔ value.coins ≠ 0) := by
  refine ⟨?_, ?_, ?_⟩
  · intro value plain
    exact ⟨equal_to_current_of_current plain, (of_current_spec plain).1⟩
  · intro left right leftPlain rightPlain agree
    exact equal_of_agree leftPlain rightPlain agree
  · intro value regular
    exact ⟨agree_of_current_to_current regular, names_lovelace_iff regular⟩

/-- Lovelace, another asset under its policy, an asset without a name and one of which nothing is
held. -/
def assorted : Value :=
  (((Value.empty.put adaPolicy lovelaceName 7).put adaPolicy "other" 1).put "policy" "" 2).put
    "policy" "token" 0

/-- The same without its lovelace, in the legacy schema. -/
def assortedAssets : FlatValue :=
  ⟨0, OrderedMap.ofList [("ada.other", 1), ("policy", 2), ("policy.token", 0)]⟩

theorem amounts_conserved_of_assorted :
    (assorted.IsPlain ∧ (ofCurrent assorted).toCurrent.equal assorted = true ∧
      (ofCurrent assorted).coins = 7) ∧
    (assortedAssets.IsRegular ∧ (ofCurrent assortedAssets.toCurrent).Agree assortedAssets ∧
      ¬assortedAssets.toCurrent.Names adaPolicy lovelaceName) := by
  obtain ⟨there, -, back⟩ := amounts_conserved
  have plain : assorted.IsPlain := by
    unfold Value.IsPlain
    decide +kernel
  have regular : assortedAssets.IsRegular := by
    have ids : ∀ id ∈ assortedAssets.assets.keys,
        id = "ada.other" ∨ id = "policy" ∨ id = "policy.token" := by
      decide +kernel
    intro id member
    rcases ids id member with rfl | rfl | rfl
    · exact ⟨by decide +kernel, "ada", "other", by decide, by decide, by decide +kernel⟩
    · exact ⟨by decide +kernel, "policy", "", by decide, by decide, by decide +kernel⟩
    · exact ⟨by decide +kernel, "policy", "token", by decide, by decide, by decide +kernel⟩
  obtain ⟨equal, coins⟩ := there assorted plain
  obtain ⟨agree, named⟩ := back assortedAssets regular
  refine ⟨⟨plain, equal, ?_⟩, regular, agree, ?_⟩
  · rw [coins]
    decide +kernel
  · rw [named]
    exact fun some => some rfl

/-! Identifiers with more points than one. -/

/-- Whether the name that an identifier gives to its asset holds a point itself. -/
def IsOverlong (id : String) : Prop := '.' ∈ (AssetId.mk id).name.toList

instance (id : String) : Decidable (IsOverlong id) := inferInstanceAs (Decidable (_ ∈ _))

/-- The policy and the name that an identifier stands for. -/
def located (id : String) : String × String := ((AssetId.mk id).policy, (AssetId.mk id).name)

theorem split_asset_eq (id : String) :
    splitAsset id =
      ((AssetId.mk id).policy, if IsOverlong id then "" else (AssetId.mk id).name) := by
  simp [splitAsset, IsOverlong, AssetId.policy, AssetId.name]

theorem split_eq_located {id : String} (short : ¬IsOverlong id) : splitAsset id = located id :=
  split_of_short short

theorem no_point_in_split (id : String) : '.' ∉ (splitAsset id).2.toList := by
  rw [split_asset_eq]
  by_cases long : IsOverlong id
  · rw [if_pos long]
    exact List.not_mem_nil
  · rw [if_neg long]
    exact long

/-- What the current form of a value holds. -/
theorem amount_to_current (value : FlatValue) (policy name : String) :
    value.toCurrent.amount policy name =
      (value.writes.reverse.lookup (policy, name)).getD
        (if (policy, name) = (adaPolicy, lovelaceName) then value.coins else 0) := by
  rw [to_current_eq_foldl, Value.amount_foldl_put_last, amount_to_current_start]

/-- Where a value can be taken apart: its identifiers stand for assets of their own, and none of
them for lovelace. -/
structure IsApart (value : FlatValue) : Prop where
  distinct : (value.assets.keys.map located).Nodup
  other : (adaPolicy, lovelaceName) ∉ value.assets.keys.map located

/-- The current form of a value has the amount of every asset where its identifier says, and
nothing else but lovelace. -/
structure KeepsAssets (value : FlatValue) : Prop where
  kept : ∀ entry ∈ value.assets.entries, value.toCurrent.assetAmount ⟨entry.1⟩ = entry.2
  only : ∀ policy name, value.toCurrent.amount policy name ≠ 0 →
    (policy, name) = (adaPolicy, lovelaceName) ∨ (policy, name) ∈ value.assets.keys.map located

/-- Overlong identifiers hold nothing and stand behind no amount that they overwrite. -/
structure IsLossless (value : FlatValue) : Prop where
  none : ∀ entry ∈ value.assets.entries, IsOverlong entry.1 → entry.2 = 0
  behind : value.assets.entries.Pairwise fun earlier later =>
    IsOverlong later.1 → splitAsset earlier.1 = splitAsset later.1 → earlier.2 = 0

section Apart

variable {value : FlatValue}

theorem not_written_overlong {id : String} (long : IsOverlong id) :
    located id ∉ value.writes.map Prod.fst := by
  intro member
  unfold writes at member
  rw [List.map_map, List.mem_map] at member
  obtain ⟨entry, -, split⟩ := member
  have free := no_point_in_split entry.1
  rw [show splitAsset entry.1 = located id from split] at free
  exact free long

/-- Under an overlong identifier nothing is found. -/
theorem amount_of_overlong {id : String} (long : IsOverlong id) :
    value.toCurrent.assetAmount ⟨id⟩ = 0 := by
  have absent : located id ∉ value.writes.reverse.map Prod.fst := by
    rw [List.map_reverse, List.mem_reverse]
    exact not_written_overlong long
  have other : located id ≠ (adaPolicy, lovelaceName) := by
    intro ada
    have named : (AssetId.mk id).name = lovelaceName := (Prod.mk.inj ada).2
    unfold IsOverlong at long
    rw [named] at long
    exact absurd long (by decide)
  unfold Value.assetAmount
  rw [amount_to_current, show ((AssetId.mk id).policy, (AssetId.mk id).name) = located id from rfl,
    Value.lookup_of_not_mem absent, if_neg other]
  rfl

/-- What is found where an entry is written: its own amount, or that of the last of the entries
behind it that are written there too. -/
theorem amount_of_split {before after : List (String × Int)} {entry : String × Int}
    (split : value.assets.entries = before ++ entry :: after) :
    value.toCurrent.amount (splitAsset entry.1).1 (splitAsset entry.1).2 =
      ((after.map fun later => (splitAsset later.1, later.2)).reverse.lookup
        (splitAsset entry.1)).getD entry.2 := by
  rw [amount_to_current]
  unfold writes
  rw [split, List.map_append, List.map_cons, List.reverse_append, List.reverse_cons,
    List.append_assoc, List.singleton_append, List.lookup_append, lookup_cons_entry]
  cases ((after.map fun later => (splitAsset later.1, later.2)).reverse.lookup
    (splitAsset entry.1)) <;> simp

theorem written_of_lookup {entries : List (String × Int)} {asset : String × String} {amount : Int}
    (found : (entries.map fun entry => (splitAsset entry.1, entry.2)).reverse.lookup asset =
      some amount) :
    ∃ entry ∈ entries, splitAsset entry.1 = asset ∧ entry.2 = amount := by
  obtain ⟨front, back, whole, -⟩ := List.lookup_eq_some_iff.mp found
  have member : (asset, amount) ∈ entries.map fun entry => (splitAsset entry.1, entry.2) := by
    rw [← List.mem_reverse, whole]
    exact List.mem_append_right _ List.mem_cons_self
  obtain ⟨entry, there, same⟩ := List.mem_map.mp member
  exact ⟨entry, there, (Prod.mk.inj same).1, (Prod.mk.inj same).2⟩

/-- Behind an entry, only overlong identifiers are written where it is. -/
theorem overlong_of_behind (apart : value.IsApart) {before after : List (String × Int)}
    {entry later : String × Int} (split : value.assets.entries = before ++ entry :: after)
    (short : ¬IsOverlong entry.1) (behind : later ∈ after)
    (same : splitAsset later.1 = splitAsset entry.1) : IsOverlong later.1 := by
  by_contra laterShort
  have distinct := apart.distinct
  unfold OrderedMap.keys at distinct
  rw [split, List.map_append, List.map_cons, List.map_append, List.map_cons,
    List.nodup_append] at distinct
  have first := (List.nodup_cons.mp distinct.2.1).1
  rw [split_eq_located laterShort, split_eq_located short] at same
  rw [← same, List.map_map] at first
  exact first (List.mem_map_of_mem (f := located ∘ Prod.fst) behind)

theorem amount_of_short {id : String} (short : ¬IsOverlong id) :
    value.toCurrent.assetAmount ⟨id⟩ =
      value.toCurrent.amount (splitAsset id).1 (splitAsset id).2 := by
  rw [split_eq_located short]
  rfl

theorem keeps_of_lossless (apart : value.IsApart) (lossless : value.IsLossless) :
    value.KeepsAssets where
  kept := by
    intro entry member
    by_cases long : IsOverlong entry.1
    · rw [amount_of_overlong long, lossless.none entry member long]
    · obtain ⟨before, after, split⟩ := List.append_of_mem member
      rw [amount_of_short long, amount_of_split split]
      cases found : (after.map fun later => (splitAsset later.1, later.2)).reverse.lookup
          (splitAsset entry.1) with
      | none => rfl
      | some amount =>
          obtain ⟨later, behind, same, rfl⟩ := written_of_lookup found
          have laterLong := overlong_of_behind apart split long behind same
          have there : later ∈ value.assets.entries := by
            rw [split]
            exact List.mem_append_right _ (List.mem_cons_of_mem _ behind)
          have pairs := lossless.behind
          rw [split, List.pairwise_append, List.pairwise_cons] at pairs
          rw [Option.getD_some, lossless.none later there laterLong,
            pairs.2.1.1 later behind laterLong same.symm]
  only := by
    intro policy name some
    rw [amount_to_current] at some
    cases found : value.writes.reverse.lookup (policy, name) with
    | none =>
        rw [found, Option.getD_none] at some
        by_contra other
        exact some (if_neg fun ada => other (.inl ada))
    | some amount =>
        rw [found, Option.getD_some] at some
        obtain ⟨entry, member, split, rfl⟩ := written_of_lookup found
        have short : ¬IsOverlong entry.1 := fun long => some (lossless.none entry member long)
        rw [← split, split_eq_located short]
        exact .inr (List.mem_map_of_mem (List.mem_map_of_mem member))

theorem lossless_of_keeps (apart : value.IsApart) (keeps : value.KeepsAssets) :
    value.IsLossless := by
  have none : ∀ entry ∈ value.assets.entries, IsOverlong entry.1 → entry.2 = 0 := by
    intro entry member long
    rw [← keeps.kept entry member, amount_of_overlong long]
  refine ⟨none, ?_⟩
  rw [List.pairwise_iff_forall_sublist]
  intro earlier later ordered laterLong same
  obtain ⟨front, back, whole, inFront, inBack⟩ := List.cons_sublist_iff.mp ordered
  obtain ⟨before, between, frontSplit⟩ := List.append_of_mem inFront
  have split : value.assets.entries = before ++ earlier :: (between ++ back) := by
    rw [whole, frontSplit, List.append_assoc, List.cons_append]
  have behind : later ∈ between ++ back :=
    List.mem_append_right _ (List.singleton_sublist.mp inBack)
  have member : earlier ∈ value.assets.entries := by
    rw [split]
    exact List.mem_append_right _ List.mem_cons_self
  by_cases long : IsOverlong earlier.1
  · exact none earlier member long
  · rw [← keeps.kept earlier member, amount_of_short long, amount_of_split split]
    cases found : ((between ++ back).map fun later =>
        (splitAsset later.1, later.2)).reverse.lookup (splitAsset earlier.1) with
    | none =>
        rw [List.lookup_eq_none_iff] at found
        have missed := found (splitAsset later.1, later.2) (by
          rw [List.mem_reverse]
          exact List.mem_map_of_mem behind)
        simp [same] at missed
    | some amount =>
        obtain ⟨last, there, lastSame, rfl⟩ := written_of_lookup found
        apply none last
        · rw [split]
          exact List.mem_append_right _ (List.mem_cons_of_mem _ there)
        · exact overlong_of_behind apart split long there lastSame

theorem lovelace_to_current_of_apart (apart : value.IsApart) :
    value.toCurrent.lovelace = value.coins := by
  rw [Value.lovelace_eq_amount, amount_to_current, if_pos rfl]
  cases found : value.writes.reverse.lookup (adaPolicy, lovelaceName) with
  | none => rfl
  | some amount =>
      obtain ⟨entry, member, split, -⟩ := written_of_lookup found
      have short : ¬IsOverlong entry.1 := by
        intro long
        rw [split_asset_eq, if_pos long] at split
        exact absurd (Prod.mk.inj split).2 (by decide)
      rw [split_eq_located short] at split
      exact absurd (split ▸ List.mem_map_of_mem (List.mem_map_of_mem member)) apart.other

end Apart

/-- A legacy value whose identifiers stand for assets of their own always keeps its lovelace, and
nothing is ever found under an identifier with a second point. So it keeps all its assets if and
only if those identifiers hold nothing and overwrite nothing. -/
theorem keeps_assets_iff {value : FlatValue} (apart : value.IsApart) :
    value.toCurrent.lovelace = value.coins ∧
      (∀ entry ∈ value.assets.entries, IsOverlong entry.1 →
        value.toCurrent.assetAmount ⟨entry.1⟩ = 0) ∧
      (value.KeepsAssets ↔ value.IsLossless) := by
  refine ⟨lovelace_to_current_of_apart apart, ?_, ?_⟩
  · intro entry _ long
    exact amount_of_overlong long
  · exact ⟨lossless_of_keeps apart, keeps_of_lossless apart⟩

/-- A policy with an amount of its own, and behind it an overlong identifier of the same policy. -/
def overlaid : FlatValue := ⟨0, OrderedMap.ofList [("ab", 7), ("ab.cd.ef", 5)]⟩

theorem is_apart_overlaid : overlaid.IsApart where
  distinct := by decide +kernel
  other := by decide +kernel

theorem keeps_assets_iff_of_overlaid :
    overlaid.IsApart ∧ overlaid.toCurrent.lovelace = 0 ∧
      overlaid.toCurrent.assetAmount ⟨"ab.cd.ef"⟩ = 0 := by
  obtain ⟨lovelace, lost, -⟩ := keeps_assets_iff is_apart_overlaid
  exact ⟨is_apart_overlaid, lovelace,
    lost ("ab.cd.ef", 5) (by decide +kernel) (by decide +kernel)⟩

/-- The amount of the overlong identifier stands where that of the policy was, and the latter is
lost. -/
theorem overlong_amount_misplaced :
    overlaid.IsApart ∧ ¬overlaid.KeepsAssets ∧
      overlaid.toCurrent.assetAmount ⟨"ab.cd.ef"⟩ = 0 ∧
      overlaid.toCurrent.assetAmount ⟨"ab"⟩ = 5 := by
  refine ⟨is_apart_overlaid, ?_, by decide +kernel, by decide +kernel⟩
  intro keeps
  have kept := keeps.kept ("ab", 7) (by decide +kernel)
  exact absurd kept (by decide +kernel)

end FlatValue

end Legacy

end NodeBridge
