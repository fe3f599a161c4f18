import NodeBridge.Adaptive.Document
import NodeBridge.Proofs.Document.Complaints

/-!
How reading a response can fail, in either schema. Every reader of a part has nothing but
complaints, and so have the conversions; a block of an era that is not supported is the only
other obstacle. Nothing on the way asks a response for a result that it does not hold.
-/

namespace NodeBridge

variable (json : Json)

namespace Current

@[simp] theorem Input.complains_of_json : Complains (Input.ofJson json) := by
  simp [Input.ofJson]

@[simp] theorem Output.complains_of_json : Complains (Output.ofJson json) := by
  simp [Output.ofJson]

@[simp] theorem ValidityInterval.complains_of_json : Complains (ValidityInterval.ofJson json) := by
  simp [ValidityInterval.ofJson]

@[simp] theorem Signatory.complains_of_json : Complains (Signatory.ofJson json) := by
  simp [Signatory.ofJson]

@[simp] theorem Transaction.complains_of_json : Complains (Transaction.ofJson json) := by
  simp [Transaction.ofJson]

@[simp] theorem VrfProof.complains_of_json (what : String) :
    Complains (VrfProof.ofJson what json) := by
  simp [VrfProof.ofJson]

@[simp] theorem ProtocolVersion.complains_of_json : Complains (ProtocolVersion.ofJson json) := by
  simp [ProtocolVersion.ofJson]

@[simp] theorem OperationalCertificate.complains_of_json :
    Complains (OperationalCertificate.ofJson json) := by
  simp [OperationalCertificate.ofJson]

@[simp] theorem Issuer.complains_of_json : Complains (Issuer.ofJson json) := by
  simp only [Issuer.ofJson, fails_within_bind, Decode.complains_object, implies_true,
    Decode.complains_optional, Decode.complains_text, OperationalCertificate.complains_of_json]
  intro fields _ leader _ key _ vrfKey _ certificate _
  -- The leader value is read or not, and nothing is read after it.
  cases leader <;> simp

@[simp] theorem Block.complains_of_json : Complains (Block.ofJson json) := by
  simp only [Block.ofJson, fails_within_bind, Decode.complains_object, implies_true,
    Decode.complains_optional, Decode.complains_text]
  intro fields _ nonce _ protocol _ type _ era _ id _ ancestor _
  -- The nonce is read or not, and what follows is the same.
  cases nonce <;> simp

end Current

@[simp] theorem BlockPoint.complains_of_json : Complains (BlockPoint.ofJson json) := by
  simp [BlockPoint.ofJson]

@[simp] theorem Point.complains_of_json : Complains (Point.ofJson json) := by
  unfold Point.ofJson
  split <;> simp

namespace Current

@[simp] theorem ErrorReport.complains_of_json : Complains (ErrorReport.ofJson json) := by
  simp [ErrorReport.ofJson]

@[simp] theorem IntersectionResult.complains_of_json :
    Complains (IntersectionResult.ofJson json) := by
  simp [IntersectionResult.ofJson]

@[simp] theorem BlockResult.complains_of_json : Complains (BlockResult.ofJson json) := by
  simp [BlockResult.ofJson]

@[simp] theorem Response.complains_read_result (method : String) :
    Complains (Response.readResult method json) := by
  unfold Response.readResult
  split <;> simp

@[simp] theorem Response.complains_of_json : Complains (Response.ofJson json) := by
  simp only [Response.ofJson, fails_within_bind, Decode.complains_object, implies_true,
    Decode.complains_optional, Decode.complains_text, ErrorReport.complains_of_json]
  intro fields _ name _ version _ error _
  cases error with
  | some error => simp
  | none =>
      dsimp only
      split
      · simp [DecodeError.isComplaint]
      · simp

end Current

namespace Legacy

@[simp] theorem FlatValue.complains_of_json : Complains (FlatValue.ofJson json) := by
  simp [FlatValue.ofJson]

@[simp] theorem Input.complains_of_json : Complains (Input.ofJson json) := by
  simp [Input.ofJson]

@[simp] theorem Output.complains_of_json : Complains (Output.ofJson json) := by
  simp [Output.ofJson]

@[simp] theorem ValidityInterval.complains_of_json : Complains (ValidityInterval.ofJson json) := by
  simp [ValidityInterval.ofJson]

@[simp] theorem Witness.complains_of_json : Complains (Witness.ofJson json) := by
  simp [Witness.ofJson]

@[simp] theorem Body.complains_of_json : Complains (Body.ofJson json) := by
  simp [Body.ofJson]

@[simp] theorem Transaction.complains_of_json : Complains (Transaction.ofJson json) := by
  simp [Transaction.ofJson]

@[simp] theorem Header.complains_of_json : Complains (Header.ofJson json) := by
  simp [Header.ofJson]

@[simp] theorem Block.complains_of_json : Complains (Block.ofJson json) := by
  simp [Block.ofJson]

@[simp] theorem EraBlock.complains_of_json : Complains (EraBlock.ofJson json) := by
  simp only [EraBlock.ofJson, fails_within_bind, Decode.complains_object]
  intro fields _
  split <;> simp

@[simp] theorem BlockPoint.complains_of_json : Complains (BlockPoint.ofJson json) := by
  simp [BlockPoint.ofJson]

@[simp] theorem Point.complains_of_json : Complains (Point.ofJson json) := by
  unfold Point.ofJson
  split <;> simp

@[simp] theorem IntersectionResult.complains_read_variant (name : String) :
    Complains (IntersectionResult.readVariant name json) := by
  unfold IntersectionResult.readVariant
  split <;> simp [optionalTip]

@[simp] theorem BlockResult.complains_read_variant (name : String) :
    Complains (BlockResult.readVariant name json) := by
  unfold BlockResult.readVariant
  split
  · simp
  · simp only [fails_within_bind, Decode.complains_object, Decode.complains_optional,
      Point.complains_of_json, implies_true]
    intro fields _ point _
    cases point <;> simp [DecodeError.isComplaint]

@[simp] theorem Result.complains_of_json : Complains (Result.ofJson json) := by
  simp only [Result.ofJson, fails_within_bind, Decode.complains_object]
  intro fields _
  split
  · unfold Result.readVariant
    split <;> simp
  · simp [DecodeError.isComplaint]

@[simp] theorem Response.complains_of_json : Complains (Response.ofJson json) := by
  simp only [Response.ofJson, fails_within_bind, Decode.complains_object]
  intro fields _
  split <;> simp [DecodeError.isComplaint]

end Legacy

/-! Conversions fail over a complaint or over an era that is not supported. -/

/-- Whether an error says that a document cannot be used. The other one is that a response was
asked for a result that it does not hold. -/
def ConversionError.isPassedOver : ConversionError → Bool
  | .decode error => error.isComplaint
  | .unsupportedEra _ => true
  | .misuse _ => false

/-- A conversion whose failures are about the document. -/
abbrev PassesOver {α : Type} (outcome : Converted α) : Prop :=
  FailsWithin ConversionError.isPassedOver outcome

@[simp] theorem Decoded.passes_over_converted {α : Type} {outcome : Decoded α} :
    PassesOver outcome.converted ↔ Complains outcome :=
  fails_within_map_error _

namespace Legacy

theorem Witness.complains_bootstrap_signatories (entries : List Fields) :
    Complains (bootstrapSignatories entries) := by
  induction entries with
  | nil => simp [bootstrapSignatories]
  | cons entry entries induction => simp [bootstrapSignatories, bootstrapSignatory, induction]

@[simp] theorem Transaction.complains_to_current (transaction : Transaction) :
    Complains transaction.toCurrent := by
  simp [Transaction.toCurrent, Witness.signatories, Witness.complains_bootstrap_signatories]

@[simp] theorem Header.complains_current_certificate (header : Header) :
    Complains header.currentCertificate := by
  unfold Header.currentCertificate
  split <;> simp

theorem Block.complains_current_transactions (transactions : List Transaction) :
    Complains (currentTransactions transactions) := by
  induction transactions with
  | nil => simp [currentTransactions]
  | cons transaction transactions induction => simp [currentTransactions, induction]

@[simp] theorem Block.complains_to_current (era : Era) (block : Block) :
    Complains (block.toCurrent era) := by
  simp [Block.toCurrent, Block.complains_current_transactions]

@[simp] theorem EraBlock.passes_over_to_current (block : EraBlock) :
    PassesOver block.toCurrent := by
  cases block <;> simp [EraBlock.toCurrent, ConversionError.isPassedOver]

@[simp] theorem BlockResult.passes_over_to_current (result : BlockResult) :
    PassesOver result.toCurrent := by
  cases result <;> simp [BlockResult.toCurrent]

@[simp] theorem Response.passes_over_to_current (response : Response) :
    PassesOver response.toCurrent := by
  unfold Response.toCurrent
  split <;> simp

end Legacy

namespace Adaptive

theorem Reading.complains_attempt {γ : Type} (kind : DocumentKind) (schema : Schema)
    {read : Json → Decoded γ} (fits : γ → Json → Bool)
    (complains : ∀ json, Complains (read json)) :
    Complains (attempt kind schema read fits json) := by
  unfold attempt
  split
  · split <;> simp [DecodeError.isComplaint]
  · next error fails => simpa using complains json error fails

/-- A reading under two schemas fails as its three parts do. -/
theorem Reading.passes_over_decode {α β : Type} {reading : Reading α β}
    (current : ∀ json, Complains (reading.current json))
    (legacy : ∀ json, Complains (reading.legacy json))
    (converts : ∀ value, PassesOver (reading.convert value)) :
    PassesOver (reading.decode json) := by
  unfold decode
  split
  · simp
  · next first fails =>
      split
      · exact converts _
      · next second other =>
          simp [ConversionError.isPassedOver, DecodeError.isComplaint,
            complains_attempt json _ _ _ current first fails,
            complains_attempt json _ _ _ legacy second other]

theorem passes_over_decode_response (frame : Bytes) : PassesOver (decodeResponse frame) := by
  have reads (json : Json) : PassesOver (response.decode json) :=
    Reading.passes_over_decode json Current.Response.complains_of_json
      Legacy.Response.complains_of_json Legacy.Response.passes_over_to_current
  simp [decodeResponse, Decode.complains_parse_bytes, reads]

end Adaptive

end NodeBridge
