import NodeBridge.Proofs.Adaptive.Refusals
import NodeBridge.Proofs.Adaptive.Retelling
import NodeBridge.Proofs.Legacy.Assets

/-!
Bodies of legacy transactions on the way into the current schema and back. Every field comes back
but the time to live, for which the current schema has no place.
-/

namespace NodeBridge

theorem Value.lovelace_of_lovelace (amount : Int) : (ofLovelace amount).lovelace = amount := by
  rw [lovelace_eq_amount, amount_of_coins_ada, if_pos rfl]

namespace Legacy

/-- Outputs that are the same but for the order of their assets. -/
structure Output.Agree (back origin : Output) : Prop where
  address : back.address = origin.address
  datum : back.datum = origin.datum
  datumHash : back.datumHash = origin.datumHash
  value : back.value.Agree origin.value
  script : back.script = origin.script

theorem Output.agree_of_current_to_current {output : Output} (regular : output.value.IsRegular) :
    (ofCurrent output.toCurrent).Agree output where
  address := rfl
  datum := rfl
  datumHash := rfl
  value := FlatValue.agree_of_current_to_current regular
  script := rfl

namespace Body

/-- A body that names its assets by a policy and perhaps a name. -/
structure IsRegular (body : Body) : Prop where
  outputs : ∀ output ∈ body.outputs, output.value.IsRegular
  collateralReturn : ∀ output ∈ body.collateralReturn, output.value.IsRegular
  mint : ∀ value ∈ body.mint, value.IsRegular

/-- Bodies that are the same but for the order of assets, and for nothing that is minted. -/
structure Agree (back origin : Body) : Prop where
  certificates : back.certificates = origin.certificates
  collaterals : back.collaterals = origin.collaterals
  fee : back.fee = origin.fee
  inputs : back.inputs = origin.inputs
  mint : (back.mint.getD FlatValue.empty).Agree (origin.mint.getD FlatValue.empty)
  network : back.network = origin.network
  outputs : List.Forall₂ Output.Agree back.outputs origin.outputs
  requiredExtraSignatures : back.requiredExtraSignatures = origin.requiredExtraSignatures
  scriptIntegrityHash : back.scriptIntegrityHash = origin.scriptIntegrityHash
  timeToLive : back.timeToLive = origin.timeToLive
  update : back.update = origin.update
  validityInterval : back.validityInterval = origin.validityInterval
  withdrawals : back.withdrawals = origin.withdrawals
  collateralReturn : Option.Rel Output.Agree back.collateralReturn origin.collateralReturn
  totalCollateral : back.totalCollateral = origin.totalCollateral
  references : back.references = origin.references

theorem map_input_to_current (inputs : List Input) :
    (inputs.map Input.toCurrent).map Input.ofCurrent = inputs := by
  rw [List.map_map]
  exact List.map_id inputs

theorem lovelace_comp_of_lovelace : Value.lovelace ∘ Value.ofLovelace = id := by
  funext amount
  exact Value.lovelace_of_lovelace amount

theorem map_withdrawals (withdrawals : OrderedMap String Int) :
    (withdrawals.map Value.ofLovelace).map Value.lovelace = withdrawals := by
  apply OrderedMap.ext_entries
  simp only [OrderedMap.map, List.map_map, Function.comp_def, Value.lovelace_of_lovelace]
  exact List.map_id _

theorem agree_mint {mint : Option FlatValue} (regular : ∀ value ∈ mint, value.IsRegular) :
    (FlatValue.ofCurrent ((mint.map FlatValue.toCurrent).getD Value.empty)).Agree
      (mint.getD FlatValue.empty) := by
  cases mint with
  | none => exact ⟨rfl, OrderedMap.Same.refl _⟩
  | some value => exact FlatValue.agree_of_current_to_current (regular value rfl)

theorem agree_collateral_return {output : Option Output}
    (regular : ∀ value ∈ output, value.value.IsRegular) :
    Option.Rel Output.Agree ((output.map Output.toCurrent).map Output.ofCurrent) output := by
  cases output with
  | none => exact .none
  | some output => exact .some (Output.agree_of_current_to_current (regular output rfl))

theorem agree_outputs {outputs : List Output}
    (regular : ∀ output ∈ outputs, output.value.IsRegular) :
    List.Forall₂ Output.Agree ((outputs.map Output.toCurrent).map Output.ofCurrent) outputs := by
  rw [List.map_map, List.forall₂_map_left_iff, List.forall₂_same]
  intro output member
  exact Output.agree_of_current_to_current (regular output member)

end Body

namespace Transaction

variable {transaction : Transaction}

theorem body_of_current_to_current (regular : transaction.body.IsRegular)
    {current : Current.Transaction} (converts : transaction.toCurrent = .ok current) :
    (ofCurrent current).body.Agree { transaction.body with timeToLive := 0 } := by
  simp only [toCurrent, bind_eq_ok] at converts
  obtain ⟨signatories, -, same⟩ := converts
  cases same
  constructor
  · rfl
  · exact Body.map_input_to_current _
  · exact Value.lovelace_of_lovelace _
  · exact Body.map_input_to_current _
  · exact Body.agree_mint regular.mint
  · rfl
  · exact Body.agree_outputs regular.outputs
  · rfl
  · rfl
  · rfl
  · rfl
  · rfl
  · exact Body.map_withdrawals _
  · exact Body.agree_collateral_return regular.collateralReturn
  · exact (Option.map_map _ _ _).trans (by rw [Body.lovelace_comp_of_lovelace, Option.map_id_apply])
  · exact Body.map_input_to_current _

/-- A transaction is converted unless a signature of a bootstrap address stands in the way. Its
body then comes back as it was, without a time to live, and so is the same only if it had none. -/
theorem keeps_body_iff (regular : transaction.body.IsRegular) :
    FailsOver transaction.witness.complaints transaction.toCurrent ∧
    ∀ current, transaction.toCurrent = .ok current →
      (ofCurrent current).body.Agree { transaction.body with timeToLive := 0 } ∧
        ((ofCurrent current).body.Agree transaction.body ↔ transaction.body.timeToLive = 0) := by
  refine ⟨transaction.fails_over_to_current, ?_⟩
  intro current converts
  have agree := body_of_current_to_current regular converts
  refine ⟨agree, ?_⟩
  constructor
  · intro whole
    exact whole.timeToLive.symm
  · intro none
    rw [show transaction.body = { transaction.body with timeToLive := 0 } by rw [← none]]
    exact agree

/-- A payment of a token that is valid up to some slot. -/
def timed : Transaction :=
  let payment := ofCurrent Current.Transaction.paid
  { payment with body := { payment.body with timeToLive := 5 } }

theorem is_regular_timed : timed.body.IsRegular where
  outputs := by
    have token : IsAssetId "policy.token" :=
      ⟨by decide +kernel, "policy", "token", by decide, by decide, by decide +kernel⟩
    have single : ∀ output ∈ timed.body.outputs, ∀ id ∈ output.value.assets.keys,
        id = "policy.token" := by
      decide +kernel
    intro output member id named
    rw [single output member id named]
    exact token
  collateralReturn := by
    intro output member
    cases member
  mint := by
    intro value member id named
    cases member
    cases named

theorem timed_converts : ∃ current, timed.toCurrent = .ok current := by
  apply exists_of_is_ok
  decide +kernel

theorem keeps_body_iff_of_timed :
    timed.body.IsRegular ∧ ∃ current, timed.toCurrent = .ok current ∧
      (ofCurrent current).body.Agree { timed.body with timeToLive := 0 } := by
  have regular := is_regular_timed
  obtain ⟨current, converts⟩ := timed_converts
  obtain ⟨-, returns⟩ := keeps_body_iff regular
  exact ⟨regular, current, converts, (returns current converts).1⟩

/-- Its time to live does not come back. -/
theorem time_to_live_lost :
    ofJson timed.toJson = .ok timed ∧ timed.body.IsRegular ∧
      ∃ current, timed.toCurrent = .ok current ∧
        ¬(ofCurrent current).body.Agree timed.body := by
  obtain ⟨current, converts⟩ := timed_converts
  refine ⟨by decide +kernel, is_regular_timed, current, converts, ?_⟩
  intro whole
  have kept : (0 : Int) = 5 := whole.timeToLive
  exact absurd kept (by decide)

end Transaction

end Legacy

end NodeBridge
