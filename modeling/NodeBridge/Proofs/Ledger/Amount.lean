import Mathlib.Data.List.Induction
import Mathlib.Data.List.Nodup
import NodeBridge.Ledger.Value

/-!
Amounts of values. A value is known by its amounts: writing one amount changes no other, and
the entries of a value name each asset at most once with its amount.
-/

namespace NodeBridge

namespace Holding

def asset (entry : Holding) : String × String := (entry.policy, entry.name)

end Holding

namespace Value

theorem amount_empty (policy name : String) : empty.amount policy name = 0 := rfl

theorem amount_put (value : Value) (policy name : String) (amount : Int)
    (other otherName : String) :
    (value.put policy name amount).amount other otherName =
      if (other, otherName) = (policy, name) then amount else value.amount other otherName := by
  unfold put Value.amount holdings
  rw [OrderedMap.find_insert]
  by_cases same : other = policy
  · subst same
    rw [if_pos rfl, Option.getD_some, OrderedMap.find_insert]
    by_cases sameName : otherName = name
    · rw [if_pos sameName, if_pos (by rw [sameName])]
      rfl
    · rw [if_neg sameName, if_neg (by simp [sameName])]
  · rw [if_neg same, if_neg (by simp [same])]

theorem amount_of_coins_ada (amount : Int) (policy name : String) :
    (ofLovelace amount).amount policy name =
      if (policy, name) = (adaPolicy, lovelaceName) then amount else 0 := by
  have ada : adaAssetId.policy = adaPolicy := by decide +kernel
  have lovelace : adaAssetId.name = lovelaceName := by decide +kernel
  have whole : ofLovelace amount =
      empty.put adaAssetId.policy adaAssetId.name (0 + amount) := rfl
  rw [whole, amount_put, ada, lovelace, Int.zero_add, amount_empty]

theorem lovelace_eq_amount (value : Value) :
    value.lovelace = value.amount adaPolicy lovelaceName := by
  have ada : adaAssetId.policy = adaPolicy := by decide +kernel
  have lovelace : adaAssetId.name = lovelaceName := by decide +kernel
  unfold Value.lovelace assetAmount
  rw [ada, lovelace]

theorem equal_of_amounts {left right : Value}
    (same : ∀ policy name, left.amount policy name = right.amount policy name) :
    equal left right = true := by
  unfold equal
  rw [List.all_eq_true]
  intro entry _
  rw [same]
  exact decide_eq_true rfl

/-! The entries of a value. -/

def listed (policies : List (String × Holdings)) : List Holding :=
  policies.flatMap fun policy => policy.2.entries.map fun entry => ⟨policy.1, entry.1, entry.2⟩

theorem policy_of_mem_listed {policies : List (String × Holdings)} {entry : Holding}
    (member : entry ∈ listed policies) : entry.policy ∈ policies.map Prod.fst := by
  unfold listed at member
  rw [List.mem_flatMap] at member
  obtain ⟨policy, there, inside⟩ := member
  rw [List.mem_map] at inside
  obtain ⟨holding, -, rfl⟩ := inside
  exact List.mem_map_of_mem there

theorem nodup_listed {policies : List (String × Holdings)}
    (distinct : (policies.map Prod.fst).Nodup) :
    ((listed policies).map Holding.asset).Nodup := by
  induction policies with
  | nil => exact List.nodup_nil
  | cons policy policies induction =>
      rw [List.map_cons, List.nodup_cons] at distinct
      have front : ((policy.2.entries.map fun entry => Holding.asset
          ⟨policy.1, entry.1, entry.2⟩)).Nodup := by
        have names := policy.2.distinct
        have keyed : (policy.2.entries.map fun entry => Holding.asset
            ⟨policy.1, entry.1, entry.2⟩) =
              (policy.2.entries.map Prod.fst).map fun name => (policy.1, name) := by
          rw [List.map_map]
          rfl
        rw [keyed]
        apply names.map
        intro name other same
        exact (Prod.mk.inj same).2
      have split : (listed (policy :: policies)).map Holding.asset =
          (policy.2.entries.map fun entry => Holding.asset ⟨policy.1, entry.1, entry.2⟩) ++
            (listed policies).map Holding.asset := by
        simp [listed, Function.comp_def]
      rw [split, List.nodup_append]
      refine ⟨front, induction distinct.2, ?_⟩
      intro asset inFront other inRest same
      subst same
      rw [List.mem_map] at inFront inRest
      obtain ⟨holding, -, rfl⟩ := inFront
      obtain ⟨entry, member, named⟩ := inRest
      have policyNamed : entry.policy = policy.1 := (Prod.mk.inj named).1
      exact distinct.1 (policyNamed ▸ policy_of_mem_listed member)

theorem nodup_entries (value : Value) : (value.entries.map Holding.asset).Nodup :=
  nodup_listed value.policies.distinct

/-- Entries by what they are of. -/
def keyed (entries : List Holding) : List ((String × String) × Int) :=
  entries.map fun entry => (entry.asset, entry.amount)

theorem keys_keyed (entries : List Holding) :
    (keyed entries).map Prod.fst = entries.map Holding.asset := by
  unfold keyed
  rw [List.map_map]
  rfl

theorem lookup_of_not_mem {κ α : Type} [BEq κ] [LawfulBEq κ] {key : κ} {entries : List (κ × α)}
    (absent : key ∉ entries.map Prod.fst) : entries.lookup key = none := by
  rw [List.lookup_eq_none_iff]
  intro entry member
  have other : key ≠ entry.1 := by
    rintro rfl
    exact absent (List.mem_map_of_mem member)
  simpa using other

theorem lookup_front (policy name : String) (entries : List (String × Int)) :
    (keyed (entries.map fun entry => ⟨policy, entry.1, entry.2⟩)).lookup (policy, name) =
      entries.lookup name := by
  induction entries with
  | nil => rfl
  | cons entry entries induction =>
      unfold keyed at induction ⊢
      rw [List.map_cons, List.map_cons, lookup_cons_entry, lookup_cons_entry, induction]
      simp [Holding.asset]

theorem lookup_keyed_listed {policies : List (String × Holdings)}
    (distinct : (policies.map Prod.fst).Nodup) (policy name : String) :
    (keyed (listed policies)).lookup (policy, name) =
      (policies.lookup policy).bind fun holdings => holdings.find? name := by
  induction policies with
  | nil => rfl
  | cons head policies induction =>
      rw [List.map_cons, List.nodup_cons] at distinct
      have split : keyed (listed (head :: policies)) =
          keyed (head.2.entries.map fun entry => ⟨head.1, entry.1, entry.2⟩) ++
            keyed (listed policies) := by
        simp [keyed, listed]
      rw [split, List.lookup_append, induction distinct.2, lookup_cons_entry]
      by_cases same : policy = head.1
      · subst same
        have absent : policies.lookup head.1 = none := lookup_of_not_mem distinct.1
        rw [lookup_front, absent, if_pos rfl]
        simp [OrderedMap.find?]
      · have absent : (keyed (head.2.entries.map fun entry =>
            ⟨head.1, entry.1, entry.2⟩)).lookup (policy, name) = none := by
          apply lookup_of_not_mem
          rw [keys_keyed, List.map_map, List.mem_map]
          rintro ⟨entry, -, named⟩
          exact same (Prod.mk.inj named).1.symm
        rw [absent, if_neg same]
        rfl

/-- An amount is what the entries of the value say. -/
theorem amount_eq_lookup (value : Value) (policy name : String) :
    value.amount policy name = ((keyed value.entries).lookup (policy, name)).getD 0 := by
  have found := lookup_keyed_listed value.policies.distinct policy name
  have whole : keyed value.entries = keyed (listed value.policies.entries) := rfl
  rw [whole, found]
  unfold Value.amount holdings OrderedMap.find?
  cases value.policies.entries.lookup policy with
  | none => rfl
  | some holdings => rfl

theorem amount_foldl_put {writes : List ((String × String) × Int)}
    (distinct : (writes.map Prod.fst).Nodup) (start : Value) (policy name : String) :
    (writes.foldl (fun value write => value.put write.1.1 write.1.2 write.2) start).amount
        policy name =
      (writes.lookup (policy, name)).getD (start.amount policy name) := by
  induction writes generalizing start with
  | nil => rfl
  | cons write writes induction =>
      rw [List.map_cons, List.nodup_cons] at distinct
      rw [List.foldl_cons, induction distinct.2, amount_put, lookup_cons_entry]
      by_cases same : (policy, name) = write.1
      · rw [if_pos same, if_pos same, same, lookup_of_not_mem distinct.1]
        rfl
      · rw [if_neg same, if_neg same]

/-- Of all writings to one asset the last one counts. -/
theorem amount_foldl_put_last (writes : List ((String × String) × Int)) (start : Value)
    (policy name : String) :
    (writes.foldl (fun value write => value.put write.1.1 write.1.2 write.2) start).amount
        policy name =
      (writes.reverse.lookup (policy, name)).getD (start.amount policy name) := by
  induction writes using List.reverseRecOn with
  | nil => rfl
  | append_singleton writes write induction =>
      rw [List.foldl_append, List.foldl_cons, List.foldl_nil, amount_put,
        List.reverse_append, List.reverse_singleton, List.singleton_append, lookup_cons_entry]
      split
      · rfl
      · exact induction

end Value

end NodeBridge
