import NodeBridge.Proofs.Document.Read
import NodeBridge.Proofs.Ledger.Asset
import NodeBridge.Proofs.Ledger.Sum

/-!
Coins and values as two views of the same amounts. A value made of coins holds of every asset the
sum of its coins. A value that is taken apart into coins comes back from them with every entry in
its place, and only policies without entries are gone, as long as no policy with entries holds a
point.
-/

namespace NodeBridge

/-- What a coin says, with its identifier taken apart. -/
def Coin.holding (coin : Coin) : Holding := ⟨coin.asset.policy, coin.asset.name, coin.amount⟩

namespace Value

/-- Adds what an entry says. -/
def takeUp (value : Value) (entry : Holding) : Value :=
  value.deposit entry.policy entry.name entry.amount

theorem of_coins_eq_foldl (coins : List Coin) :
    ofCoins coins = (coins.map Coin.holding).foldl takeUp empty := by
  rw [List.foldl_map]
  rfl

/-! What a value made of coins holds. -/

/-- The coins of an asset. Identifiers that differ may name one asset: `ab` and `ab.` have the
same policy and the same name. -/
def coinsOf (asset : AssetId) (coins : List Coin) : List Coin :=
  coins.filter fun coin => coin.asset.policy = asset.policy ∧ coin.asset.name = asset.name

theorem sum_coins_of (asset : AssetId) (coins : List Coin) :
    ((keyed (coins.map Coin.holding)).map fun entry =>
      if (asset.policy, asset.name) = entry.1 then entry.2 else 0).sum =
      ((coinsOf asset coins).map Coin.amount).sum := by
  induction coins with
  | nil => rfl
  | cons coin coins induction =>
      unfold keyed coinsOf at induction ⊢
      rw [List.map_cons, List.map_cons, List.map_cons, List.sum_cons, induction, List.filter_cons]
      by_cases same : coin.asset.policy = asset.policy ∧ coin.asset.name = asset.name
      · have named : (asset.policy, asset.name) = coin.holding.asset :=
          Prod.ext same.1.symm same.2.symm
        rw [if_pos named, if_pos (decide_eq_true same), List.map_cons, List.sum_cons]
        rfl
      · have other : (asset.policy, asset.name) ≠ coin.holding.asset := by
          intro named
          exact same ⟨(Prod.mk.inj named).1.symm, (Prod.mk.inj named).2.symm⟩
        rw [if_neg other, if_neg (by simpa using same), Int.zero_add]

theorem asset_amount_of_coins (coins : List Coin) (asset : AssetId) :
    (ofCoins coins).assetAmount asset = ((coinsOf asset coins).map Coin.amount).sum := by
  have deposits : ofCoins coins = (keyed (coins.map Coin.holding)).foldl
      (fun value entry => value.deposit entry.1.1 entry.1.2 entry.2) empty := by
    rw [of_coins_eq_foldl, keyed, List.foldl_map (l := coins.map Coin.holding)]
    rfl
  unfold assetAmount
  rw [deposits, amount_foldl_deposit, amount_empty, Int.zero_add, sum_coins_of]

/-! Entries taken up one by one. -/

/-- A name that a policy does not have yet goes behind those that it has. -/
theorem deposit_insert {policies : OrderedMap String Holdings} {policy name : String}
    {held : Holdings} (absent : held.find? name = none) (amount : Int) :
    (Value.mk (policies.insert policy held)).deposit policy name amount =
      ⟨policies.insert policy (held.insert name amount)⟩ := by
  have found : (policies.insert policy held).find? policy = some held := by
    rw [OrderedMap.find_insert, if_pos rfl]
  unfold deposit put Value.amount holdings
  rw [found, Option.getD_some, absent, Option.getD_none, Int.zero_add, OrderedMap.insert_insert]

theorem deposit_first {policies : OrderedMap String Holdings} {policy : String}
    (absent : policies.find? policy = none) (name : String) (amount : Int) :
    (Value.mk policies).deposit policy name amount =
      ⟨policies.insert policy (OrderedMap.empty.insert name amount)⟩ := by
  unfold deposit put Value.amount holdings
  rw [absent, Option.getD_none, OrderedMap.find_empty, Option.getD_none, Int.zero_add]

theorem foldl_deposit_insert (policies : OrderedMap String Holdings) (policy : String)
    (entries : List (String × Int)) (held : Holdings)
    (distinct : ((held.entries ++ entries).map Prod.fst).Nodup) :
    entries.foldl (fun value entry => value.takeUp ⟨policy, entry.1, entry.2⟩)
        (Value.mk (policies.insert policy held)) =
      ⟨policies.insert policy
        (entries.foldl (fun held entry => held.insert entry.1 entry.2) held)⟩ := by
  induction entries generalizing held with
  | nil => rfl
  | cons entry entries induction =>
      have fresh : entry.1 ∉ held.entries.map Prod.fst := not_mem_of_nodup_append distinct
      have absent : held.find? entry.1 = none := lookup_of_not_mem fresh
      have grown : (held.insert entry.1 entry.2).entries = held.entries ++ [entry] :=
        put_entry_of_not_mem entry.1 entry.2 fresh
      rw [List.foldl_cons, List.foldl_cons, takeUp, deposit_insert absent]
      exact induction _ (by rw [grown]; simpa using distinct)

/-- All entries of a policy that a value does not have yet give it that policy, unless there are
no such entries. -/
theorem foldl_deposit_policy {policies : OrderedMap String Holdings} {policy : String}
    (absent : policies.find? policy = none) (held : Holdings) :
    held.entries.foldl (fun value entry => value.takeUp ⟨policy, entry.1, entry.2⟩)
        (Value.mk policies) =
      if held.isEmpty then ⟨policies⟩ else ⟨policies.insert policy held⟩ := by
  obtain ⟨entries, distinct⟩ := held
  cases entries with
  | nil => rfl
  | cons entry entries =>
      have whole : entries.foldl (fun held entry => held.insert entry.1 entry.2)
          (OrderedMap.empty.insert entry.1 entry.2) = ⟨entry :: entries, distinct⟩ :=
        OrderedMap.of_list_entries ⟨entry :: entries, distinct⟩
      rw [List.foldl_cons, takeUp, deposit_first absent,
        foldl_deposit_insert policies policy entries
          (OrderedMap.empty.insert entry.1 entry.2) distinct, whole]
      rfl

/-- A value without those of its policies that have no entries. -/
def withoutIdle (value : Value) : Value :=
  ⟨value.policies.filter fun _ held => !held.isEmpty⟩

theorem entries_without_idle (value : Value) : value.withoutIdle.entries = value.entries := by
  have general (policies : List (String × Holdings)) :
      listed (policies.filter fun policy => !policy.2.isEmpty) = listed policies := by
    induction policies with
    | nil => rfl
    | cons policy policies induction =>
        rw [List.filter_cons]
        cases idle : policy.2.isEmpty with
        | false => simpa [listed] using induction
        | true =>
            have none : policy.2.entries = [] := by simpa [OrderedMap.isEmpty] using idle
            simpa [listed, none] using induction
  exact general value.policies.entries

theorem foldl_take_up_listed (policies : List (String × Holdings))
    (start : OrderedMap String Holdings)
    (distinct : ((start.entries ++ policies).map Prod.fst).Nodup) :
    (listed policies).foldl takeUp ⟨start⟩ =
      ⟨(policies.filter fun policy => !policy.2.isEmpty).foldl
        (fun map policy => map.insert policy.1 policy.2) start⟩ := by
  -- What came before is in `start` already, and shares no policy with what is still to come.
  induction policies generalizing start with
  | nil => rfl
  | cons policy policies induction =>
      have fresh : policy.1 ∉ start.entries.map Prod.fst := not_mem_of_nodup_append distinct
      have absent : start.find? policy.1 = none := lookup_of_not_mem fresh
      have split : listed (policy :: policies) =
          (policy.2.entries.map fun entry => ⟨policy.1, entry.1, entry.2⟩) ++ listed policies :=
        rfl
      rw [split, List.foldl_append, List.foldl_map, foldl_deposit_policy absent,
        List.filter_cons]
      cases idle : policy.2.isEmpty with
      | true =>
          apply induction start
          refine distinct.sublist (List.Sublist.map _ ?_)
          exact (List.Sublist.refl _).append (List.sublist_cons_self _ _)
      | false =>
          have grown : (start.insert policy.1 policy.2).entries = start.entries ++ [policy] :=
            put_entry_of_not_mem policy.1 policy.2 fresh
          exact induction _ (by rw [grown]; simpa using distinct)

theorem foldl_take_up_entries (value : Value) :
    value.entries.foldl takeUp empty = value.withoutIdle := by
  have listing := foldl_take_up_listed value.policies.entries OrderedMap.empty
    (by simpa [OrderedMap.empty] using value.policies.distinct)
  have kept := OrderedMap.of_list_entries value.withoutIdle.policies
  exact listing.trans (congrArg Value.mk kept)

/-! Values taken apart into coins. -/

theorem holdings_of_coins {value : Value}
    (free : ∀ policy ∈ value.policies.keys, '.' ∉ policy.toList) :
    value.coins.map Coin.holding = value.entries := by
  unfold coins
  rw [List.map_map]
  refine (List.map_congr_left ?_).trans (List.map_id _)
  intro entry member
  have there : entry.policy ∈ value.policies.keys := policy_of_mem_listed member
  obtain ⟨policy, name⟩ := AssetId.parts_of_join (free _ there) entry.name
  rw [Function.comp_apply, Coin.holding, policy, name]
  rfl

theorem of_coins_coins {value : Value}
    (free : ∀ policy ∈ value.policies.keys, '.' ∉ policy.toList) :
    ofCoins value.coins = value.withoutIdle := by
  rw [of_coins_eq_foldl, holdings_of_coins free, foldl_take_up_entries]

theorem nodup_coins {value : Value}
    (free : ∀ policy ∈ value.policies.keys, '.' ∉ policy.toList) :
    (value.coins.map Coin.asset).Nodup := by
  have parts : (value.coins.map Coin.asset).map (fun asset => (asset.policy, asset.name)) =
      value.entries.map Holding.asset := by
    rw [← holdings_of_coins free, List.map_map, List.map_map]
    rfl
  apply List.Nodup.of_map (fun asset : AssetId => (asset.policy, asset.name))
  rw [parts]
  exact value.nodup_entries

/-! Values that are made of coins. -/

/-- Every policy has entries, and none holds a point. -/
def IsTidy (value : Value) : Prop :=
  ∀ policy ∈ value.policies.entries, '.' ∉ policy.1.toList ∧ policy.2.isEmpty = false

theorem is_tidy_add_coin {value : Value} (tidy : value.IsTidy) (coin : Coin) :
    (value.addCoin coin).IsTidy := by
  intro policy member
  rcases mem_put_entry member with rfl | before
  · refine ⟨coin.asset.no_point_in_policy, ?_⟩
    have written := (value.holdings coin.asset.policy).find_insert coin.asset.name coin.asset.name
      (value.amount coin.asset.policy coin.asset.name + coin.amount)
    rw [if_pos rfl, OrderedMap.find_eq_some_iff] at written
    exact List.isEmpty_eq_false_iff_exists_mem.mpr ⟨_, written⟩
  · exact tidy policy before

theorem is_tidy_of_coins (coins : List Coin) : (ofCoins coins).IsTidy := by
  have general (start : Value) (tidy : start.IsTidy) : (coins.foldl addCoin start).IsTidy := by
    induction coins generalizing start with
    | nil => exact tidy
    | cons coin coins induction => exact induction _ (is_tidy_add_coin tidy coin)
  exact general empty fun _ member => absurd member List.not_mem_nil

theorem of_coins_coins_eq_self_iff (value : Value) :
    ofCoins value.coins = value ↔ value.IsTidy := by
  constructor
  · intro same
    rw [← same]
    exact is_tidy_of_coins value.coins
  · intro tidy
    have free : ∀ policy ∈ value.policies.keys, '.' ∉ policy.toList := by
      intro policy member
      obtain ⟨entry, there, rfl⟩ := List.mem_map.mp member
      exact (tidy entry there).1
    have kept : (value.policies.entries.filter fun policy => !policy.2.isEmpty) =
        value.policies.entries := by
      rw [List.filter_eq_self]
      intro policy member
      rw [(tidy policy member).2]
      rfl
    rw [of_coins_coins free]
    exact congrArg Value.mk (OrderedMap.ext_entries kept)

/-- Coins and values are two views of the same amounts. A value made of coins holds of each asset
the sum of the coins of it, whatever identifiers they have. A value whose policies hold no point
is listed as one coin for each entry, and comes back from these coins with all of its entries in
their order. The values that come back as they are have neither points in their policies nor
policies without entries, and all values made of coins are such. -/
theorem coins_and_values_inverse :
    (∀ (coins : List Coin) (asset : AssetId),
      (ofCoins coins).assetAmount asset = ((coinsOf asset coins).map Coin.amount).sum) ∧
    (∀ value : Value, (∀ policy ∈ value.policies.keys, '.' ∉ policy.toList) →
      ofCoins value.coins = value.withoutIdle ∧
      (ofCoins value.coins).entries = value.entries ∧
      value.coins.map Coin.holding = value.entries ∧
      (value.coins.map Coin.asset).Nodup) ∧
    (∀ value : Value, ofCoins value.coins = value ↔ value.IsTidy) ∧
    ∀ coins : List Coin, (ofCoins coins).IsTidy := by
  refine ⟨asset_amount_of_coins, ?_, of_coins_coins_eq_self_iff, is_tidy_of_coins⟩
  intro value free
  have back := of_coins_coins free
  refine ⟨back, ?_, holdings_of_coins free, nodup_coins free⟩
  rw [back, entries_without_idle]

/-- Names with points and without any character, a written zero, a debt, and a policy without
entries. -/
def motley : Value :=
  ⟨OrderedMap.ofList [("ab", OrderedMap.ofList [("", 5), (".", 0), ("c.d", -2)]),
    ("cd", OrderedMap.empty), ("", OrderedMap.ofList [("", 1), ("ab", 7)])]⟩

theorem coins_and_values_inverse_of_motley :
    (∀ policy ∈ motley.policies.keys, '.' ∉ policy.toList) ∧
      ofCoins motley.coins = motley.withoutIdle ∧
      (ofCoins motley.coins).entries = motley.entries ∧
      motley.coins.map (fun coin => coin.asset.text) = ["ab", "ab..", "ab.c.d", "", ".ab"] := by
  have free : ∀ policy ∈ motley.policies.keys, '.' ∉ policy.toList := by decide +kernel
  obtain ⟨back, entries, -, -⟩ := coins_and_values_inverse.2.1 motley free
  exact ⟨free, back, entries, by decide +kernel⟩

end Value

end NodeBridge
