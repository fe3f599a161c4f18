import NodeBridge.Proofs.Document.Read
import NodeBridge.Proofs.Legacy.Transaction
import NodeBridge.Proofs.Text.Binary

/-!
Transactions on the way into the legacy schema and back. The way can always be gone by a
transaction that was read itself. What the legacy schema has no place for is lost, and the
rest comes back: binary contents if they are hexadecimal digits, amounts if their names hold
no point or they are of lovelace where only lovelace has a place.
-/

namespace NodeBridge

/-! Datums that were read can be read again. -/

theorem Datums.readable_of_json {json : Json} {datums : Datums}
    (reads : Datums.ofJson json = .ok datums) : datums.Readable := by
  intro entry member
  obtain ⟨json, found⟩ := Decode.of_mem_map reads member
  cases json with
  | text content =>
      simp only [readDatum] at found
      split at found
      · next bytes decoded =>
          cases found
          rw [decoded]
          rfl
      · split at found
        · next bytes _ =>
            have same := Except.ok.inj found
            rw [← same, Text.decode_hex_encode_hex]
            rfl
        · cases found
  | null | bool _ | int _ | float _ | list _ | object _ => cases found

theorem Current.Transaction.readable_of_json {json : Json} {transaction : Current.Transaction}
    (reads : Current.Transaction.ofJson json = .ok transaction) :
    transaction.datums.Readable := by
  simp only [Current.Transaction.ofJson, bind_eq_ok] at reads
  obtain ⟨_, -, _, -, _, -, _, -, _, -, _, -, _, -, _, -, _, -, _, -, _, -, _, -, _, -, _, -,
    _, -, _, -, _, -, _, -, datums, found, _, -, same⟩ := reads
  cases same
  exact Datums.readable_of_json found

namespace Current.Signatory

theorem of_json_to_json (signatory : Current.Signatory) :
    ofJson (.object signatory.fields) = .ok signatory := by
  simp [ofJson, fields, Json.get_compact, Json.get_cons]

/-- Whether the binary parts of a signatory are hexadecimal digits. -/
def IsHex (signatory : Current.Signatory) : Prop :=
  Text.IsHex signatory.signature ∧ Text.IsHex signatory.addressAttributes

/-- A signatory with its binary parts turned into base 64 and back. -/
def throughLegacy (signatory : Current.Signatory) : Current.Signatory :=
  { signatory with
    signature := Text.base64ToHex (Text.hexToBase64 signatory.signature)
    addressAttributes := Text.base64ToHex (Text.hexToBase64 signatory.addressAttributes) }

theorem through_legacy_of_is_hex {signatory : Current.Signatory} (hex : signatory.IsHex) :
    signatory.throughLegacy = signatory := by
  unfold throughLegacy
  rw [Text.base64_to_hex_hex_to_base64 hex.1, Text.base64_to_hex_hex_to_base64 hex.2]

end Current.Signatory

namespace Legacy.Witness

open Current

theorem bootstrap_signatories_of_current (signatories : List Signatory) :
    bootstrapSignatories (bootstrapOfCurrent signatories) =
      .ok ((signatories.filter Signatory.isBootstrap).map Signatory.throughLegacy) := by
  unfold bootstrapOfCurrent
  generalize signatories.filter Signatory.isBootstrap = bootstrap
  induction bootstrap with
  | nil => rfl
  | cons signatory bootstrap induction =>
      have first : bootstrapSignatory (legacySignatory signatory).fields =
          .ok signatory.throughLegacy := by
        unfold bootstrapSignatory
        rw [Signatory.of_json_to_json, Decode.ok_bind]
        rfl
      simp only [List.map_cons, bootstrapSignatories]
      rw [first, Decode.ok_bind, induction, Decode.ok_bind]

def byKey (left right : Signatory) : Bool := !decide (right.key < left.key)

theorem by_key_iff (left right : Signatory) : byKey left right = true ↔ left.key ≤ right.key := by
  simp only [byKey, Bool.not_eq_true', decide_eq_false_iff_not, String.not_lt]

theorem by_key_trans (first second third : Signatory) (before : byKey first second = true)
    (after : byKey second third = true) : byKey first third = true := by
  rw [by_key_iff] at before after ⊢
  exact String.le_trans before after

theorem by_key_total (first second : Signatory) :
    (byKey first second || byKey second first) = true := by
  rw [Bool.or_eq_true, by_key_iff, by_key_iff]
  exact String.le_total first.key second.key

theorem pairwise_by_key (signatories : List Signatory) :
    (signatories.mergeSort byKey).Pairwise fun left right => left.key ≤ right.key :=
  (List.pairwise_mergeSort by_key_trans by_key_total signatories).imp fun ordered =>
    (by_key_iff _ _).mp ordered

theorem plain_signatories_of_current {signatories : List Signatory}
    (hex : ∀ signatory ∈ signatories, signatory.IsHex)
    (distinct : ((signatories.filter fun signatory => !signatory.isBootstrap).map
      Signatory.key).Nodup) :
    (signaturesOfCurrent signatories).entries.map plainSignatory =
      signatories.filter fun signatory => !signatory.isBootstrap := by
  unfold signaturesOfCurrent
  rw [OrderedMap.entries_of_list (by rw [List.map_map]; exact distinct), List.map_map]
  conv_rhs => rw [← List.map_id (signatories.filter fun signatory => !signatory.isBootstrap)]
  apply List.map_congr_left
  intro signatory member
  obtain ⟨there, plain⟩ := List.mem_filter.mp member
  obtain ⟨key, signature, chainCode, attributes⟩ := signatory
  simp only [Signatory.isBootstrap, Bool.not_or, Bool.not_not, Bool.and_eq_true,
    String.isEmpty_iff] at plain
  obtain ⟨rfl, rfl⟩ := plain
  simp [plainSignatory, Text.base64_to_hex_hex_to_base64 (hex _ there).1]

end Legacy.Witness

namespace Current

def Output.carried (output : Output) : Output :=
  { output with
    value := (Legacy.FlatValue.ofCurrent output.value).toCurrent
    script := output.script.settle }

/-- Outputs that agree in all but documents that say nothing. -/
structure Output.Agree (back origin : Output) : Prop where
  address : back.address = origin.address
  datum : back.datum = origin.datum
  datumHash : back.datumHash = origin.datumHash
  value : back.value.equal origin.value = true
  script : back.script.settle = origin.script.settle

theorem Output.agree_carried {output : Output} (plain : output.value.IsPlain) :
    Agree output.carried output where
  address := rfl
  datum := rfl
  datumHash := rfl
  value := Legacy.FlatValue.equal_to_current_of_current plain
  script := Json.settle_settle output.script

namespace Transaction

/-- Converts a transaction into the legacy schema, prints it, reads what was printed and
converts it back. -/
def throughLegacy (transaction : Transaction) : Decoded Transaction := do
  let legacy ← Legacy.Transaction.ofJson (Legacy.Transaction.ofCurrent transaction).toJson
  legacy.toCurrent

def carriedSignatories (signatories : List Signatory) : List Signatory :=
  ((signatories.filter Signatory.isBootstrap).map Signatory.throughLegacy ++
    (Legacy.Witness.signaturesOfCurrent signatories).entries.map
      Legacy.Witness.plainSignatory).mergeSort Legacy.Witness.byKey

/-- What comes back of a transaction. -/
def carried (transaction : Transaction) : Transaction :=
  { transaction with
    totalCollateral :=
      ((transaction.totalCollateral.map Value.lovelace).filter (· ≠ 0)).map Value.ofLovelace
    collateralReturn := transaction.collateralReturn.map Output.carried
    outputs := transaction.outputs.map Output.carried
    withdrawals := (transaction.withdrawals.map Value.lovelace).map Value.ofLovelace
    fee := Value.ofLovelace transaction.fee.lovelace
    mint := (Legacy.FlatValue.ofCurrent transaction.mint).toCurrent
    network := transaction.network.settle
    requiredExtraScripts := []
    proposals := transaction.proposals.settle
    votes := .null
    metadata := transaction.metadata.settle
    signatories := carriedSignatories transaction.signatories
    scripts := transaction.scripts.settle
    redeemers := transaction.redeemers.settle
    cbor := Text.base64ToHex (Text.hexToBase64 transaction.cbor) }

theorem map_input_of_current (inputs : List Input) :
    (inputs.map Legacy.Input.ofCurrent).map Legacy.Input.toCurrent = inputs := by
  rw [List.map_map]
  exact List.map_id inputs

theorem map_output_of_current (outputs : List Output) :
    ((outputs.map Legacy.Output.ofCurrent).map Legacy.Output.settle).map
      Legacy.Output.toCurrent = outputs.map Output.carried := by
  rw [List.map_map, List.map_map]
  rfl

theorem to_current_settle_of_current (transaction : Transaction) :
    (Legacy.Transaction.ofCurrent transaction).settle.toCurrent = .ok transaction.carried := by
  have signatories : (Legacy.Transaction.ofCurrent transaction).settle.witness.signatories =
      .ok (carriedSignatories transaction.signatories) := by
    have bootstrap := Legacy.Witness.bootstrap_signatories_of_current transaction.signatories
    unfold Legacy.Witness.signatories
    simp only [Legacy.Transaction.settle, Legacy.Transaction.ofCurrent, Legacy.Witness.settle]
    rw [bootstrap, Decode.ok_bind]
    rfl
  have collateralReturn : ((transaction.collateralReturn.map Legacy.Output.ofCurrent).map
      Legacy.Output.settle).map Legacy.Output.toCurrent =
        transaction.collateralReturn.map Output.carried := by
    rw [Option.map_map, Option.map_map]
    rfl
  have inputs := map_input_of_current
  have outputs := map_output_of_current
  simp only [Legacy.Transaction.toCurrent, signatories, Decode.ok_bind]
  simp only [Legacy.Transaction.settle, Legacy.Transaction.ofCurrent, Legacy.Body.settle,
    Legacy.Body.ofCurrent, Legacy.Witness.settle, inputs, outputs, collateralReturn]
  rfl

theorem through_legacy_eq {transaction : Transaction} (readable : transaction.datums.Readable) :
    transaction.throughLegacy = .ok transaction.carried := by
  unfold throughLegacy
  rw [Legacy.Transaction.of_json_to_json readable, Decode.ok_bind,
    to_current_settle_of_current]

/-- What a transaction needs to come back with all that the legacy schema has a place for. -/
structure IsPortable (transaction : Transaction) : Prop where
  cbor : Text.IsHex transaction.cbor
  signatories : ∀ signatory ∈ transaction.signatories, signatory.IsHex
  keys : ((transaction.signatories.filter fun signatory => !signatory.isBootstrap).map
    Signatory.key).Nodup
  fee : transaction.fee.IsAdaOnly
  totalCollateral : ∀ value ∈ transaction.totalCollateral, value.IsAdaOnly
  withdrawals : ∀ entry ∈ transaction.withdrawals.entries, entry.2.IsAdaOnly
  outputs : ∀ output ∈ transaction.outputs, output.value.IsPlain
  collateralReturn : ∀ output ∈ transaction.collateralReturn, output.value.IsPlain
  mint : transaction.mint.IsPlain

/-- How a transaction that came back agrees with the one that left. -/
structure Agree (back origin : Transaction) : Prop where
  id : back.id = origin.id
  spends : back.spends = origin.spends
  inputs : back.inputs = origin.inputs
  references : back.references = origin.references
  collaterals : back.collaterals = origin.collaterals
  totalCollateral : (back.totalCollateral.getD Value.empty).equal
    (origin.totalCollateral.getD Value.empty) = true
  collateralReturn : Option.Rel Output.Agree back.collateralReturn origin.collateralReturn
  outputs : List.Forall₂ Output.Agree back.outputs origin.outputs
  certificates : back.certificates = origin.certificates
  withdrawals : List.Forall₂ (fun left right => left.1 = right.1 ∧ left.2.equal right.2 = true)
    back.withdrawals.entries origin.withdrawals.entries
  fee : back.fee.equal origin.fee = true
  validityInterval : back.validityInterval = origin.validityInterval
  mint : back.mint.equal origin.mint = true
  network : back.network.settle = origin.network.settle
  scriptIntegrityHash : back.scriptIntegrityHash = origin.scriptIntegrityHash
  requiredExtraSignatories : back.requiredExtraSignatories = origin.requiredExtraSignatories
  requiredExtraScripts : back.requiredExtraScripts = []
  proposals : back.proposals.settle = origin.proposals.settle
  votes : back.votes = .null
  metadata : back.metadata.settle = origin.metadata.settle
  signatories : back.signatories.Perm origin.signatories
  ordered : back.signatories.Pairwise fun left right => left.key ≤ right.key
  scripts : back.scripts.settle = origin.scripts.settle
  datums : back.datums = origin.datums
  redeemers : back.redeemers.settle = origin.redeemers.settle
  cbor : back.cbor = origin.cbor

section

variable {transaction : Transaction}

theorem equal_carried_total_collateral (portable : transaction.IsPortable) :
    (transaction.carried.totalCollateral.getD Value.empty).equal
      (transaction.totalCollateral.getD Value.empty) = true := by
  have only := portable.totalCollateral
  unfold carried
  cases total : transaction.totalCollateral with
  | none => rfl
  | some value =>
      have equal := Value.equal_of_lovelace (only value (by rw [total]; rfl))
      simp only [Option.map_some, Option.filter_some, Option.getD_some]
      by_cases zero : value.lovelace = 0
      · apply Value.equal_of_amounts
        intro policy name
        have amount : value.amount policy name = 0 := by
          by_cases ada : (policy, name) = (adaPolicy, lovelaceName)
          · rw [Prod.mk.injEq] at ada
            rw [ada.1, ada.2, ← Value.lovelace_eq_amount, zero]
          · exact only value (by rw [total]; rfl) policy name ada
        simp [zero, amount, Value.amount_empty]
      · simp [zero, equal]

theorem agree_carried_collateral_return (portable : transaction.IsPortable) :
    Option.Rel Output.Agree transaction.carried.collateralReturn
      transaction.collateralReturn := by
  have plain := portable.collateralReturn
  unfold carried
  cases back : transaction.collateralReturn with
  | none => exact .none
  | some output => exact .some (Output.agree_carried (plain output (by rw [back]; rfl)))

theorem agree_carried_outputs (portable : transaction.IsPortable) :
    List.Forall₂ Output.Agree transaction.carried.outputs transaction.outputs := by
  unfold carried
  rw [List.forall₂_map_left_iff, List.forall₂_same]
  intro output member
  exact Output.agree_carried (portable.outputs output member)

theorem equal_carried_withdrawals (portable : transaction.IsPortable) :
    List.Forall₂ (fun left right => left.1 = right.1 ∧ left.2.equal right.2 = true)
      transaction.carried.withdrawals.entries transaction.withdrawals.entries := by
  have twice : transaction.carried.withdrawals.entries =
      transaction.withdrawals.entries.map fun entry =>
        (entry.1, Value.ofLovelace entry.2.lovelace) := by
    unfold carried OrderedMap.map
    simp only [List.map_map]
    rfl
  rw [twice, List.forall₂_map_left_iff, List.forall₂_same]
  intro entry member
  exact ⟨rfl, Value.equal_of_lovelace (portable.withdrawals entry member)⟩

theorem perm_carried_signatories (portable : transaction.IsPortable) :
    transaction.carried.signatories.Perm transaction.signatories := by
  have bootstrap : (transaction.signatories.filter Signatory.isBootstrap).map
      Signatory.throughLegacy = transaction.signatories.filter Signatory.isBootstrap := by
    conv_rhs => rw [← List.map_id (transaction.signatories.filter Signatory.isBootstrap)]
    apply List.map_congr_left
    intro signatory member
    exact Signatory.through_legacy_of_is_hex
      (portable.signatories signatory (List.mem_of_mem_filter member))
  have plain := Legacy.Witness.plain_signatories_of_current portable.signatories portable.keys
  have sorted : transaction.carried.signatories =
      (transaction.signatories.filter Signatory.isBootstrap ++
        transaction.signatories.filter fun signatory =>
          !signatory.isBootstrap).mergeSort Legacy.Witness.byKey := by
    unfold carried carriedSignatories
    rw [bootstrap, plain]
  rw [sorted]
  exact (List.mergeSort_perm _ _).trans (List.filter_append_perm _ _)

theorem agree_carried (portable : transaction.IsPortable) :
    Agree transaction.carried transaction where
  id := rfl
  spends := rfl
  inputs := rfl
  references := rfl
  collaterals := rfl
  totalCollateral := equal_carried_total_collateral portable
  collateralReturn := agree_carried_collateral_return portable
  outputs := agree_carried_outputs portable
  certificates := rfl
  withdrawals := equal_carried_withdrawals portable
  fee := Value.equal_of_lovelace portable.fee
  validityInterval := rfl
  mint := Legacy.FlatValue.equal_to_current_of_current portable.mint
  network := Json.settle_settle transaction.network
  scriptIntegrityHash := rfl
  requiredExtraSignatories := rfl
  requiredExtraScripts := rfl
  proposals := Json.settle_settle transaction.proposals
  votes := rfl
  metadata := Json.settle_settle transaction.metadata
  signatories := perm_carried_signatories portable
  ordered := Legacy.Witness.pairwise_by_key _
  scripts := Json.settle_settle transaction.scripts
  datums := rfl
  redeemers := Json.settle_settle transaction.redeemers
  cbor := Text.base64_to_hex_hex_to_base64 portable.cbor

/-- A transaction that was read comes back from the legacy schema with all that the legacy
schema has a place for. -/
theorem through_legacy_agrees {json : Json} (reads : ofJson json = .ok transaction)
    (portable : transaction.IsPortable) :
    ∃ back, transaction.throughLegacy = .ok back ∧ Agree back transaction :=
  ⟨transaction.carried, through_legacy_eq (readable_of_json reads), agree_carried portable⟩

end

/-- A payment of lovelace and of some token, with a plain signature. -/
def payment : Json := .object [
  ("id", .text "payment"),
  ("spends", .text "inputs"),
  ("outputs", .list [.object [("address", .text "payee"), ("value", .object [
    ("ada", .object [("lovelace", .int 7)]), ("policy", .object [("token", .int 1)])])]]),
  ("fee", .object [("ada", .object [("lovelace", .int 5)])]),
  ("signatories", .list [.object [("key", .text "key"), ("signature", .text "0f")]]),
  ("cbor", .text "a0")]

def paid : Transaction where
  id := "payment"
  spends := "inputs"
  inputs := []
  references := []
  collaterals := []
  totalCollateral := none
  collateralReturn := none
  outputs := [⟨"payee", "", "",
    (Value.empty.put adaPolicy lovelaceName 7).put "policy" "token" 1, .null⟩]
  certificates := []
  withdrawals := OrderedMap.empty
  fee := Value.empty.put adaPolicy lovelaceName 5
  validityInterval := ⟨0, 0⟩
  mint := Value.empty
  network := .null
  scriptIntegrityHash := ""
  requiredExtraSignatories := []
  requiredExtraScripts := []
  proposals := .null
  votes := .null
  metadata := .null
  signatories := [⟨"key", "0f", "", ""⟩]
  scripts := .null
  datums := OrderedMap.empty
  redeemers := .null
  cbor := "a0"

theorem payment_reads : ofJson payment = .ok paid := by
  decide +kernel

theorem is_portable_paid : paid.IsPortable where
  cbor := by decide +kernel
  signatories := by
    intro signatory member
    rw [show paid.signatories = [⟨"key", "0f", "", ""⟩] from rfl, List.mem_singleton] at member
    subst member
    exact ⟨by decide +kernel, by decide +kernel⟩
  keys := by decide +kernel
  fee := by
    intro policy name other
    rw [show paid.fee = Value.empty.put adaPolicy lovelaceName 5 from rfl, Value.amount_put,
      if_neg other, Value.amount_empty]
  totalCollateral := by
    intro value member
    cases member
  withdrawals := by
    intro entry member
    cases member
  outputs := by
    have plain : ∀ output ∈ paid.outputs, ∀ entry ∈ output.value.entries, entry.IsPlain := by
      decide +kernel
    exact plain
  collateralReturn := by
    intro output member
    cases member
  mint := by
    intro entry member
    cases member

theorem through_legacy_agrees_of_payment :
    ∃ back, paid.throughLegacy = .ok back ∧ Agree back paid :=
  through_legacy_agrees payment_reads is_portable_paid

end Transaction

end Current

end NodeBridge
