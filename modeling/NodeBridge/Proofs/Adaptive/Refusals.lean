import NodeBridge.Proofs.Adaptive.Reading
import NodeBridge.Proofs.Document.Obstacles

/-!
How the readings under two schemas fail. A document that fits neither schema is refused with
the errors of both. A document that fits the legacy schema can still be refused when it is
converted, for some of its fields are looked into only then: the era of a block, the parts of
its operational certificate, and the parts of the signatures of bootstrap addresses. The error
of such a field is given alone.
-/

namespace NodeBridge

namespace Legacy

/-- What the conversion of a signature of a bootstrap address stumbles over. -/
def Witness.entryComplaints (entry : Fields) : List DecodeError :=
  ["key", "signature", "chainCode", "addressAttributes"].flatMap fun name =>
    complaintsOf (Decode.text ("signatory." ++ name) (Json.get entry name))

def Witness.complaints (witness : Witness) : List DecodeError :=
  witness.bootstrap.flatMap entryComplaints

/-- What the conversion of a header stumbles over. -/
def Header.complaints (header : Header) : List DecodeError :=
  complaintsOf (Decode.integer "opCert.count" (Json.get header.opCert "count")) ++
    (complaintsOf (Decode.integer "opCert.kesPeriod" (Json.get header.opCert "kesPeriod")) ++
      complaintsOf (Decode.text "opCert.hotVk" (Json.get header.opCert "hotVk")))

def Block.complaints (block : Block) : List DecodeError :=
  block.header.complaints ++ block.body.flatMap fun transaction => transaction.witness.complaints

/-- What the conversion of a block stumbles over, in the order in which it is met. -/
def EraBlock.obstacles : EraBlock → List ConversionError
  | .absent => [.unsupportedEra Legacy.byron]
  | .byron _ => [.unsupportedEra Legacy.byron]
  | .ofEra _ block => block.complaints.map .decode

def BlockResult.obstacles : BlockResult → List ConversionError
  | .rollForward block _ => block.obstacles
  | .rollBackward _ _ => []

def Response.obstacles (response : Response) : List ConversionError :=
  match response.result with
  | some (.block result) => result.obstacles
  | _ => []

theorem Witness.fails_over_bootstrap_signatory (entry : Fields) :
    FailsOver (entryComplaints entry) (bootstrapSignatory entry) := by
  have fields : FailsOver (entryComplaints entry) (Current.Signatory.ofJson (.object entry)) := by
    unfold entryComplaints Current.Signatory.ofJson
    simp only [List.flatMap_cons, List.flatMap_nil, Decode.object_object, Decode.ok_bind]
    refine (fails_over_own _).andThen fun key _ => ?_
    refine (fails_over_own _).andThen fun signature _ => ?_
    refine (fails_over_own _).andThen fun chainCode _ => ?_
    exact (fails_over_own _).andThen fun attributes _ => fails_over_ok _
  rw [← List.append_nil (entryComplaints entry)]
  exact fields.andThen fun signatory _ => fails_over_ok _

theorem Witness.fails_over_bootstrap_signatories (entries : List Fields) :
    FailsOver (entries.flatMap entryComplaints) (bootstrapSignatories entries) := by
  induction entries with
  | nil => exact fails_over_ok []
  | cons entry entries induction =>
      rw [List.flatMap_cons, ← List.append_nil (entries.flatMap entryComplaints)]
      exact (fails_over_bootstrap_signatory entry).andThen fun signatory _ =>
        induction.andThen fun signatories _ => fails_over_ok _

theorem Transaction.fails_over_to_current (transaction : Transaction) :
    FailsOver transaction.witness.complaints transaction.toCurrent := by
  have signatories : FailsOver transaction.witness.complaints transaction.witness.signatories := by
    rw [← List.append_nil transaction.witness.complaints]
    exact (Witness.fails_over_bootstrap_signatories _).andThen fun bootstrap _ => fails_over_ok _
  rw [← List.append_nil transaction.witness.complaints]
  exact signatories.andThen fun _ _ => fails_over_ok _

/-- A header without an operational certificate has nothing to complain of. -/
theorem Header.fails_over_current_certificate (header : Header) :
    FailsOver header.complaints header.currentCertificate := by
  unfold currentCertificate complaints
  split
  · next empty =>
      rw [List.isEmpty_iff.mp empty]
      exact fails_over_ok _
  · refine (fails_over_own _).andThen fun count _ => ?_
    refine (fails_over_own _).andThen fun period _ => ?_
    rw [← List.append_nil (complaintsOf _)]
    exact (fails_over_own _).andThen fun key _ => fails_over_ok _

theorem Block.fails_over_current_transactions (transactions : List Transaction) :
    FailsOver (transactions.flatMap fun transaction => transaction.witness.complaints)
      (currentTransactions transactions) := by
  induction transactions with
  | nil => exact fails_over_ok []
  | cons transaction transactions induction =>
      rw [List.flatMap_cons, ← List.append_nil (transactions.flatMap _)]
      exact transaction.fails_over_to_current.andThen fun current _ =>
        induction.andThen fun currents _ => fails_over_ok _

theorem Block.fails_over_to_current (era : Era) (block : Block) :
    FailsOver block.complaints (block.toCurrent era) := by
  unfold complaints
  rw [← List.append_nil (block.body.flatMap _)]
  exact block.header.fails_over_current_certificate.andThen fun certificate _ =>
    (fails_over_current_transactions block.body).andThen fun transactions _ => fails_over_ok _

theorem EraBlock.fails_over_to_current (block : EraBlock) :
    FailsOver block.obstacles block.toCurrent := by
  cases block with
  | absent => exact fails_over_own (.error _)
  | byron raw => exact fails_over_own (.error _)
  | ofEra era block => exact (block.fails_over_to_current era).converted

theorem BlockResult.fails_over_to_current (result : BlockResult) :
    FailsOver result.obstacles result.toCurrent := by
  cases result with
  | rollForward block tip =>
      show FailsOver block.obstacles _
      rw [← List.append_nil block.obstacles]
      exact block.fails_over_to_current.andThen fun current _ => fails_over_ok _
  | rollBackward point tip => exact fails_over_ok _

theorem Response.fails_over_to_current (response : Response) :
    FailsOver response.obstacles response.toCurrent := by
  unfold obstacles toCurrent
  cases response.result with
  | none => exact fails_over_ok _
  | some result =>
      cases result with
      | intersection result => cases result <;> exact fails_over_ok _
      | block result =>
          show FailsOver result.obstacles _
          rw [← List.append_nil result.obstacles]
          exact result.fails_over_to_current.andThen fun current _ => fails_over_ok _

end Legacy

namespace Adaptive

namespace Reading

variable {α β : Type} (reading : Reading α β)

/-- A document under the current schema, if it looks like one of it. -/
def underCurrent (json : Json) : Decoded α :=
  attempt reading.kind .current reading.current reading.fitsCurrent json

/-- A document under the legacy schema, if it looks like one of it. -/
def underLegacy (json : Json) : Decoded β :=
  attempt reading.kind .legacy reading.legacy reading.fitsLegacy json

/-- The report that a document is of neither schema: one error for each of them. -/
inductive ReportsBoth (json : Json) : ConversionError → Prop
  | report {current legacy : DecodeError} (first : reading.underCurrent json = .error current)
      (second : reading.underLegacy json = .error legacy) :
      ReportsBoth json (.decode (.incompatible reading.kind current legacy))

/-- The failure of a document of the legacy schema that cannot be converted. -/
inductive FailsLate (obstacles : β → List ConversionError) (json : Json) :
    ConversionError → Prop
  | late {current : DecodeError} {found : β} {failure : ConversionError}
      (first : reading.underCurrent json = .error current)
      (second : reading.underLegacy json = .ok found)
      (stops : (obstacles found).head? = some failure) : FailsLate obstacles json failure

/-- A document that is refused is refused for both schemas, or for an era that is not
supported. -/
def AnswersForBoth (json : Json) : Prop :=
  ∀ failure, reading.decode json = .error failure →
    reading.ReportsBoth json failure ∨ ∃ era, failure = .unsupportedEra era

/-- A document is refused for both schemas, or late over the first obstacle to the conversion, and
in no other way. So only what is refused late, and not for an era, is not refused for both. -/
structure Refuses (obstacles : β → List ConversionError) (json : Json) : Prop where
  exactly (failure : ConversionError) : reading.decode json = .error failure ↔
    reading.ReportsBoth json failure ∨ reading.FailsLate obstacles json failure
  answers : reading.AnswersForBoth json ↔
    ∀ failure, reading.FailsLate obstacles json failure → ∃ era, failure = .unsupportedEra era

variable {reading}

/-- A document that is refused late fits the legacy schema, so it is not refused for both. -/
theorem FailsLate.not_both {obstacles : β → List ConversionError} {json : Json}
    {failure : ConversionError} (late : reading.FailsLate obstacles json failure) :
    ¬reading.ReportsBoth json failure := by
  rintro ⟨-, refused⟩
  obtain ⟨-, second, -⟩ := late
  rw [second] at refused
  cases refused

theorem decode_eq_error_iff {obstacles : β → List ConversionError}
    (converts : ∀ found, FailsOver (obstacles found) (reading.convert found)) (json : Json)
    (failure : ConversionError) : reading.decode json = .error failure ↔
      reading.ReportsBoth json failure ∨ reading.FailsLate obstacles json failure := by
  constructor
  · intro fails
    unfold decode at fails
    split at fails
    · cases fails
    · next current first =>
        split at fails
        · next found second =>
            exact .inr (.late first second ((converts found failure).mp fails))
        · next legacy second =>
            cases fails
            exact .inl (.report first second)
  · rintro (⟨first, second⟩ | ⟨first, second, stops⟩)
    · exact decode_of_neither first second
    · unfold underCurrent at first
      unfold underLegacy at second
      simp only [decode, first, second]
      exact (converts _ failure).mpr stops

theorem refuses_of_fails_over {obstacles : β → List ConversionError}
    (converts : ∀ found, FailsOver (obstacles found) (reading.convert found)) (json : Json) :
    reading.Refuses obstacles json := by
  have exactly := decode_eq_error_iff converts json
  refine ⟨exactly, ?_, ?_⟩
  · intro answers failure late
    exact (answers failure ((exactly failure).mpr (.inr late))).resolve_left late.not_both
  · intro eras failure fails
    exact ((exactly failure).mp fails).imp_right (eras failure)

/-- Where nothing is looked into late, every refusal is one for both schemas. -/
theorem answers_of_converts {convert : β → α}
    (converts : ∀ found, reading.convert found = .ok (convert found)) (json : Json) :
    reading.AnswersForBoth json := by
  have free (found : β) : FailsOver [] (reading.convert found) := by
    rw [converts]
    exact fails_over_ok _
  rw [(refuses_of_fails_over free json).answers]
  rintro failure ⟨-, -, stops⟩
  cases stops

end Reading

/-- Values, outputs, intersections and metadata are refused with the errors of both schemas only.
Transactions, steps along the chain and responses may also be refused over what is looked into
when they are converted. -/
theorem refusals_of_readings (json : Json) :
    value.AnswersForBoth json ∧ output.AnswersForBoth json ∧
      intersectionResult.AnswersForBoth json ∧ auxiliaryData.AnswersForBoth json ∧
      transaction.Refuses (fun found => found.witness.complaints.map .decode) json ∧
      blockResult.Refuses Legacy.BlockResult.obstacles json ∧
      response.Refuses Legacy.Response.obstacles json := by
  refine ⟨?_, ?_, ?_, ?_, ?_, ?_, ?_⟩
  · exact Reading.answers_of_converts (fun _ => rfl) json
  · exact Reading.answers_of_converts (fun _ => rfl) json
  · exact Reading.answers_of_converts (fun _ => rfl) json
  · exact Reading.answers_of_converts (fun _ => rfl) json
  · exact Reading.refuses_of_fails_over (fun found => found.fails_over_to_current.converted) json
  · exact Reading.refuses_of_fails_over Legacy.BlockResult.fails_over_to_current json
  · exact Reading.refuses_of_fails_over Legacy.Response.fails_over_to_current json

/-- A legacy transaction with the key of a bootstrap signature that is no text. -/
def numberedKey : Json := .object [("raw", .text "AA=="),
  ("witness", .object [("bootstrap", .list [.object [("key", .int 5)]])])]

/-- It is refused with an error that names neither schema. -/
theorem numbered_key_refused_alone :
    transaction.decode numberedKey =
        .error (.decode (.unexpected "signatory.key" .text .int)) ∧
      ¬transaction.AnswersForBoth numberedKey := by
  have refused : transaction.decode numberedKey =
      .error (.decode (.unexpected "signatory.key" .text .int)) := by
    decide +kernel
  refine ⟨refused, fun answers => ?_⟩
  rcases answers _ refused with both | ⟨era, other⟩
  · cases both
  · cases other

end Adaptive

end NodeBridge
