import NodeBridge.Proofs.Adaptive.Output
import NodeBridge.Proofs.Adaptive.Retelling

/-!
Transactions of either schema, written and read again. Writing always gives the legacy form,
which is known by its binary contents. A transaction that was read is therefore read again
exactly if it has any: what has none is refused, in either schema.
-/

namespace NodeBridge

open Json Decode

/-- A transaction that was read in either schema has datums that can be read again. -/
theorem Adaptive.readable_of_decode_transaction {json : Json} {sent : Current.Transaction}
    (decodes : transaction.decode json = .ok sent) : sent.datums.Readable := by
  rcases Reading.decode_cases decodes with current | ⟨legacy, reads, converts⟩
  · exact Current.Transaction.readable_of_json current
  · have same := Legacy.Transaction.datums_of_to_current (converted_eq_ok.mp converts)
    rw [same]
    exact Legacy.Transaction.readable_of_json reads

/-- Under the current schema a printed legacy transaction is read as one that says nothing
of what it spends. -/
theorem Legacy.Transaction.current_of_json (transaction : Legacy.Transaction) :
    ∃ current, Current.Transaction.ofJson transaction.toJson = .ok current ∧
      current.spends = "" := by
  have spends : Decode.text "tx.spends" .null = .ok "" := rfl
  simp [Current.Transaction.ofJson, toJson, get_compact, get_cons, spends]
  exact ⟨_, rfl, rfl⟩

namespace Adaptive

theorem attempt_current_of_legacy (sent : Legacy.Transaction) :
    Reading.attempt transaction.kind .current transaction.current transaction.fitsCurrent
        sent.toJson =
      .error (.otherSchema .current .transaction) := by
  obtain ⟨current, reads, spends⟩ := sent.current_of_json
  simp [Reading.attempt, transaction, reads, spends]

theorem decode_transaction_of_raw {sent : Legacy.Transaction}
    (readable : sent.witness.datums.Readable) (raw : sent.raw ≠ "") :
    transaction.decode sent.toJson = sent.settle.toCurrent.converted := by
  have filled : sent.settle.raw ≠ "" := raw
  exact Reading.decode_of_legacy (attempt_current_of_legacy sent)
    (Legacy.Transaction.of_json_to_json readable) (by simp [transaction, filled])

theorem decode_transaction_of_no_raw {sent : Legacy.Transaction}
    (readable : sent.witness.datums.Readable) (none : sent.raw = "") :
    transaction.decode sent.toJson =
      .error (.decode (.incompatible .transaction (.otherSchema .current .transaction)
        (.otherSchema .legacy .transaction))) := by
  have empty : sent.settle.raw = "" := none
  have fails : Reading.attempt transaction.kind .legacy transaction.legacy transaction.fitsLegacy
      sent.toJson = .error (.otherSchema .legacy .transaction) := by
    simp [Reading.attempt, transaction, Legacy.Transaction.of_json_to_json readable, empty]
  exact Reading.decode_of_neither (attempt_current_of_legacy sent) fails

/-- Whether the binary contents of a transaction have more to them than gaps. -/
def HasContents (sent : Current.Transaction) : Prop :=
  ∃ char ∈ sent.cbor.toList, Text.isGap char = false

theorem raw_of_current_eq_empty_iff (sent : Current.Transaction) :
    (Legacy.Transaction.ofCurrent sent).raw = "" ↔ ¬HasContents sent := by
  have blank : (Legacy.Transaction.ofCurrent sent).raw = "" ↔
      ∀ char ∈ sent.cbor.toList, Text.isGap char = true :=
    Text.hex_to_base64_eq_empty_iff sent.cbor
  simp [blank, HasContents]

/-- A transaction that was read is written and read again if it has binary contents, and
keeps what it is known by, what it spends and what it refers to. Without binary contents what
was written is refused as a document of neither schema. -/
theorem decode_encode_transaction {json : Json} {sent : Current.Transaction}
    (decodes : transaction.decode json = .ok sent) :
    (HasContents sent → ∃ back, transaction.decode (encodeTransaction sent) = .ok back ∧
      back.id = sent.id ∧ back.spends = sent.spends ∧ back.inputs = sent.inputs ∧
      back.collaterals = sent.collaterals ∧ back.references = sent.references) ∧
    (¬HasContents sent → transaction.decode (encodeTransaction sent) =
      .error (.decode (.incompatible .transaction (.otherSchema .current .transaction)
        (.otherSchema .legacy .transaction)))) := by
  have readable : (Legacy.Transaction.ofCurrent sent).witness.datums.Readable :=
    readable_of_decode_transaction decodes
  constructor
  · intro contents
    have raw : (Legacy.Transaction.ofCurrent sent).raw ≠ "" := fun empty =>
      (raw_of_current_eq_empty_iff sent).mp empty contents
    refine ⟨sent.carried, ?_, rfl, rfl, rfl, rfl, rfl⟩
    unfold encodeTransaction
    rw [decode_transaction_of_raw readable raw,
      Current.Transaction.to_current_settle_of_current]
    rfl
  · intro blank
    exact decode_transaction_of_no_raw readable ((raw_of_current_eq_empty_iff sent).mpr blank)

theorem decode_encode_transaction_of_payment :
    ∃ back, transaction.decode (encodeTransaction Current.Transaction.paid) = .ok back ∧
      back.id = "payment" ∧ back.spends = "inputs" ∧ back.inputs = [] ∧
      back.collaterals = [] ∧ back.references = [] :=
  have decodes : transaction.decode Current.Transaction.payment = .ok Current.Transaction.paid :=
    Reading.decode_of_current Current.Transaction.payment_reads rfl
  (decode_encode_transaction decodes).1 ⟨'a', by decide, by decide⟩

/-- A transaction that says only what it spends. -/
def spending : Json := .object [("id", .text "ab"), ("spends", .text "inputs")]

/-- It is read, but not once more after it was written. -/
theorem spending_refused_when_written :
    ∃ sent, transaction.decode spending = .ok sent ∧ sent.spends = "inputs" ∧
      ∀ back, transaction.decode (encodeTransaction sent) ≠ .ok back := by
  obtain ⟨sent, reads, spends, cbor⟩ : ∃ sent, transaction.decode spending = .ok sent ∧
      sent.spends = "inputs" ∧ sent.cbor = "" := ⟨_, rfl, rfl, rfl⟩
  have none : (Legacy.Transaction.ofCurrent sent).raw = "" := by
    rw [raw_of_current_eq_empty_iff]
    rintro ⟨char, member, -⟩
    simp [cbor] at member
  refine ⟨sent, reads, spends, ?_⟩
  intro back again
  have readable : (Legacy.Transaction.ofCurrent sent).witness.datums.Readable :=
    readable_of_decode_transaction reads
  rw [encodeTransaction, decode_transaction_of_no_raw readable none] at again
  cases again

end Adaptive

end NodeBridge
