import NodeBridge.Adaptive.Document
import NodeBridge.Proofs.Adaptive.Complaints
import NodeBridge.Proofs.Adaptive.Reading
import NodeBridge.Proofs.Adaptive.Retelling

/-!
Transactions of the mempool against those of either schema. The mempool reads whatever the adaptive
reading does, and with the same outcome. Beyond that it takes what the current schema can read and
what neither spends anything nor carries its raw contents; all else it refuses.
-/

namespace NodeBridge

/-- Whether this text is the raw contents of an object. An object without any carries an
empty text. -/
def CarriesRaw (fields : Fields) (raw : String) : Prop :=
  Json.get fields "raw" = .text raw ∨ Json.get fields "raw" = .null ∧ raw = ""

/-- Why an object that carries raw contents is not taken for a transaction of the current
schema. -/
inductive FailsCurrent (json : Json) : DecodeError → Prop
  | unreadable {error : DecodeError} (fails : Current.Transaction.ofJson json = .error error) :
      FailsCurrent json error
  | spendsNothing {found : Current.Transaction}
      (reads : Current.Transaction.ofJson json = .ok found) (spends : found.spends = "") :
      FailsCurrent json .rawWithoutSpends

section

variable {fields : Fields} {raw : String} {json : Json} {error : DecodeError}

theorem CarriesRaw.text_eq_ok (carries : CarriesRaw fields raw) :
    Decode.text "tx.raw" (Json.get fields "raw") = .ok raw := by
  rcases carries with text | ⟨null, rfl⟩
  · rw [text]
    rfl
  · rw [null]
    rfl

/-- A transaction that was read under the legacy schema has the raw contents of its object. -/
theorem Legacy.Transaction.raw_of_json {legacy : Legacy.Transaction}
    (carries : CarriesRaw fields raw)
    (reads : Legacy.Transaction.ofJson (.object fields) = .ok legacy) : legacy.raw = raw := by
  simp only [ofJson, bind_eq_ok] at reads
  obtain ⟨found, object, id, -, source, -, body, -, witness, -, read, text, same⟩ := reads
  cases object
  cases same
  rw [carries.text_eq_ok] at text
  exact (Except.ok.inj text).symm

theorem FailsCurrent.unfit (fails : FailsCurrent json error) (found : Current.Transaction)
    (reads : Current.Transaction.ofJson json = .ok found) : found.spends = "" := by
  cases fails with
  | unreadable fails =>
      rw [reads] at fails
      cases fails
  | spendsNothing other spends =>
      rw [reads] at other
      cases other
      exact spends

namespace Adaptive

/-- An object is read under the current schema, or refused as that refuses it, unless it carries
raw contents and fails there. -/
theorem mempool_transaction_cases (carries : CarriesRaw fields raw) :
    (∃ found, Current.Transaction.ofJson (.object fields) = .ok found ∧
        (found.spends ≠ "" ∨ raw = "") ∧ mempoolTransaction (.object fields) = .ok found) ∨
      (∃ error, Current.Transaction.ofJson (.object fields) = .error error ∧ raw = "" ∧
        mempoolTransaction (.object fields) = .error error) ∨
      ∃ error, FailsCurrent (.object fields) error ∧ raw ≠ "" ∧
        mempoolTransaction (.object fields) = legacyMempoolTransaction error (.object fields) := by
  have object : Decode.object "transaction" (.object fields) = .ok fields := rfl
  simp only [mempoolTransaction, object, carries.text_eq_ok, Decode.ok_bind]
  cases read : Current.Transaction.ofJson (.object fields) with
  | ok found =>
      by_cases spends : found.spends = ""
      · by_cases empty : raw = ""
        · exact .inl ⟨found, rfl, .inr empty, by simp [empty]⟩
        · exact .inr (.inr ⟨_, .spendsNothing read spends, empty, by simp [spends, empty]⟩)
      · exact .inl ⟨found, rfl, .inl spends, by simp [spends]⟩
  | error error =>
      by_cases empty : raw = ""
      · exact .inr (.inl ⟨error, rfl, empty, by simp [empty]⟩)
      · exact .inr (.inr ⟨error, .unreadable read, empty, by simp [empty]⟩)

/-- The adaptive reading succeeds under the current schema for what spends something, and under the
legacy one for what carries raw contents and fails there. -/
theorem decode_transaction_iff (carries : CarriesRaw fields raw) {found : Current.Transaction} :
    transaction.decode (.object fields) = .ok found ↔
      (Current.Transaction.ofJson (.object fields) = .ok found ∧ found.spends ≠ "") ∨
        (raw ≠ "" ∧ (∃ error, FailsCurrent (.object fields) error) ∧
          (Legacy.Transaction.ofJson (.object fields) >>= Legacy.Transaction.toCurrent) =
            .ok found) := by
  have fits (other : Current.Transaction) :
      transaction.fitsCurrent other (.object fields) = true ↔ other.spends ≠ "" := by
    simp [transaction]
  by_cases current : ∃ other, Current.Transaction.ofJson (.object fields) = .ok other ∧
      other.spends ≠ ""
  · obtain ⟨other, reads, spends⟩ := current
    have decodes : transaction.decode (.object fields) = .ok other :=
      Reading.decode_of_current reads ((fits other).mpr spends)
    rw [decodes, reads]
    constructor
    · intro same
      cases same
      exact .inl ⟨rfl, spends⟩
    · rintro (⟨same, -⟩ | ⟨-, ⟨error, fails⟩, -⟩)
      · cases same
        rfl
      · exact absurd (fails.unfit other reads) spends
  · have unfit (other : Current.Transaction)
        (reads : Current.Transaction.ofJson (.object fields) = .ok other) : other.spends = "" := by
      by_contra spends
      exact current ⟨other, reads, spends⟩
    have fails : ∃ error, FailsCurrent (.object fields) error := by
      cases read : Current.Transaction.ofJson (.object fields) with
      | error error => exact ⟨error, .unreadable read⟩
      | ok other => exact ⟨_, .spendsNothing read (unfit other read)⟩
    rw [Reading.decode_of_unfit]
    · constructor
      · rintro ⟨legacy, ⟨reads, filled⟩, converts⟩
        refine .inr ⟨?_, fails, bind_eq_ok.mpr ⟨legacy, reads, converted_eq_ok.mp converts⟩⟩
        rw [← Legacy.Transaction.raw_of_json carries reads]
        simpa [transaction] using filled
      · rintro (⟨reads, spends⟩ | ⟨filled, -, reads⟩)
        · exact absurd (unfit found reads) spends
        · obtain ⟨legacy, reads, converts⟩ := bind_eq_ok.mp reads
          rw [← Legacy.Transaction.raw_of_json carries reads] at filled
          exact ⟨legacy, ⟨reads, by simpa [transaction] using filled⟩,
            converted_eq_ok.mpr converts⟩
    · intro other reads
      exact Bool.eq_false_iff.mpr fun spends => (fits other).mp spends (unfit other reads)

/-- What is left to the legacy schema is read there if the adaptive reading takes it. -/
theorem legacy_mempool_transaction_eq_ok_iff {found : Current.Transaction} :
    legacyMempoolTransaction error json = .ok found ↔
      (Legacy.Transaction.ofJson json >>= Legacy.Transaction.toCurrent) = .ok found := by
  unfold legacyMempoolTransaction
  cases Legacy.Transaction.ofJson json >>= Legacy.Transaction.toCurrent with
  | error legacy => exact iff_of_false nofun nofun
  | ok found => exact Iff.rfl

theorem mempool_transaction_of_decode (carries : CarriesRaw fields raw)
    {found : Current.Transaction} (decodes : transaction.decode (.object fields) = .ok found) :
    mempoolTransaction (.object fields) = .ok found := by
  rcases (decode_transaction_iff carries).mp decodes with
    ⟨reads, spends⟩ | ⟨filled, ⟨first, fails⟩, converts⟩
  · rcases mempool_transaction_cases carries with
      ⟨other, same, -, taken⟩ | ⟨error, refused, -⟩ | ⟨error, fails, -⟩
    · rw [taken, ← same, reads]
    · rw [reads] at refused
      cases refused
    · exact absurd (fails.unfit found reads) spends
  · rcases mempool_transaction_cases carries with
      ⟨other, same, spends | empty, -⟩ | ⟨error, -, empty, -⟩ | ⟨error, -, -, legacy⟩
    · exact absurd (fails.unfit other same) spends
    · exact absurd empty filled
    · exact absurd empty filled
    · rw [legacy]
      exact legacy_mempool_transaction_eq_ok_iff.mpr converts

/-- What the mempool cannot read is refused as the current schema refuses it, or under both schemas
if it carries raw contents. -/
theorem mempool_transaction_of_not_decoded (carries : CarriesRaw fields raw)
    (refused : ∀ found, transaction.decode (.object fields) ≠ .ok found)
    (spending : ∀ found, Current.Transaction.ofJson (.object fields) = .ok found →
      found.spends = "" → raw ≠ "") :
    (raw = "" ∧ ∃ error, Current.Transaction.ofJson (.object fields) = .error error ∧
        mempoolTransaction (.object fields) = .error error) ∨
      (raw ≠ "" ∧ ∃ current legacy, FailsCurrent (.object fields) current ∧
        (Legacy.Transaction.ofJson (.object fields) >>= Legacy.Transaction.toCurrent) =
          .error legacy ∧
        mempoolTransaction (.object fields) =
          .error (.incompatible .transaction current legacy)) := by
  rcases mempool_transaction_cases carries with
    ⟨found, reads, either, -⟩ | ⟨error, fails, empty, result⟩ | ⟨current, fails, filled, result⟩
  · by_cases spends : found.spends = ""
    · rcases either with spent | empty
      · exact absurd spends spent
      · exact absurd empty (spending found reads spends)
    · exact absurd ((decode_transaction_iff carries).mpr (.inl ⟨reads, spends⟩)) (refused found)
  · exact .inl ⟨empty, error, fails, result⟩
  · refine .inr ⟨filled, current, ?_⟩
    cases converts : Legacy.Transaction.ofJson (.object fields) >>=
        Legacy.Transaction.toCurrent with
    | ok found =>
        have decodes := (decode_transaction_iff carries).mpr
          (.inr ⟨filled, ⟨current, fails⟩, converts⟩)
        exact absurd decodes (refused found)
    | error legacy =>
        refine ⟨legacy, fails, rfl, ?_⟩
        rw [result, legacyMempoolTransaction, converts]

theorem complains_mempool_transaction (json : Json) : Complains (mempoolTransaction json) := by
  have legacy (current : DecodeError) (json : Json) (complaint : current.isComplaint = true) :
      Complains (legacyMempoolTransaction current json) := by
    have complains : Complains (Legacy.Transaction.ofJson json >>=
        Legacy.Transaction.toCurrent) := by simp
    unfold legacyMempoolTransaction
    split
    · simp
    · next error fails => simp [DecodeError.isComplaint, complaint, complains error fails]
  simp only [mempoolTransaction, fails_within_bind, Decode.complains_object,
    Decode.complains_text]
  intro fields _ raw _
  split
  · split
    · simp
    · exact legacy _ _ rfl
  · next error fails =>
      have complaint := Current.Transaction.complains_of_json _ error fails
      split
      · simpa using complaint
      · exact legacy _ _ complaint

/-- The mempool reads what the adaptive reading does, and what the current schema reads of an object
that neither spends anything nor carries raw contents. All else it refuses with complaints: as the
current schema does, or under both schemas if there are raw contents. The legacy schema has no say
if there are none, or if the current one reads something that spends. -/
theorem mempool_transaction_extends_decode (carries : CarriesRaw fields raw) :
    (∀ found, transaction.decode (.object fields) = .ok found →
      mempoolTransaction (.object fields) = .ok found) ∧
    (∀ found, Current.Transaction.ofJson (.object fields) = .ok found → found.spends = "" →
      raw = "" → mempoolTransaction (.object fields) = .ok found) ∧
    ((∀ found, transaction.decode (.object fields) ≠ .ok found) →
      (∀ found, Current.Transaction.ofJson (.object fields) = .ok found →
        found.spends = "" → raw ≠ "") →
      (raw = "" → ∃ error, Current.Transaction.ofJson (.object fields) = .error error ∧
        mempoolTransaction (.object fields) = .error error ∧ error.isComplaint = true) ∧
      (raw ≠ "" → ∃ current legacy, FailsCurrent (.object fields) current ∧
        (Legacy.Transaction.ofJson (.object fields) >>= Legacy.Transaction.toCurrent) =
          .error legacy ∧
        mempoolTransaction (.object fields) =
          .error (.incompatible .transaction current legacy) ∧
        current.isComplaint = true ∧ legacy.isComplaint = true)) ∧
    (raw = "" ∨ (∃ found, Current.Transaction.ofJson (.object fields) = .ok found ∧
        found.spends ≠ "") →
      mempoolTransaction (.object fields) = Current.Transaction.ofJson (.object fields)) := by
  have cases := mempool_transaction_cases carries
  have complains := complains_mempool_transaction (.object fields)
  refine ⟨fun found => mempool_transaction_of_decode carries, ?_, ?_, ?_⟩
  · intro found reads _ empty
    rcases cases with ⟨other, same, -, result⟩ | ⟨error, fails, -⟩ | ⟨error, -, filled, -⟩
    · rw [result, ← same, reads]
    · rw [reads] at fails
      cases fails
    · exact absurd empty filled
  · intro refused spending
    rcases mempool_transaction_of_not_decoded carries refused spending with
      ⟨empty, error, fails, result⟩ | ⟨filled, current, legacy, fails, converts, result⟩
    · exact ⟨fun _ => ⟨error, fails, result, complains error result⟩,
        fun filled => absurd empty filled⟩
    · have both := complains _ result
      simp only [DecodeError.isComplaint, Bool.and_eq_true] at both
      exact ⟨fun empty => absurd empty filled, fun _ =>
        ⟨current, legacy, fails, converts, result, both⟩⟩
  · intro settled
    rcases cases with
      ⟨found, reads, -, result⟩ | ⟨error, fails, -, result⟩ | ⟨error, fails, filled, -⟩
    · rw [result, reads]
    · rw [result, fails]
    · rcases settled with empty | ⟨found, reads, spends⟩
      · exact absurd empty filled
      · exact absurd (fails.unfit found reads) spends

/-- A legacy transaction with raw contents. -/
def rawTransaction : Fields :=
  [("id", .text "ab"), ("inputSource", .text "inputs"), ("raw", .text "q80=")]

theorem raw_transaction_read_from_mempool :
    ∃ found, transaction.decode (.object rawTransaction) = .ok found ∧
      mempoolTransaction (.object rawTransaction) = .ok found ∧ found.cbor = "abcd" := by
  have carries : CarriesRaw rawTransaction "q80=" := .inl rfl
  obtain ⟨found, decodes, cbor⟩ : ∃ found, transaction.decode (.object rawTransaction) =
      .ok found ∧ found.cbor = "abcd" := ⟨_, rfl, rfl⟩
  exact ⟨found, decodes, (mempool_transaction_extends_decode carries).1 found decodes, cbor⟩

end Adaptive

end

end NodeBridge
