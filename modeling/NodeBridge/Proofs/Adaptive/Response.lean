import NodeBridge.Proofs.Adaptive.Reading
import NodeBridge.Proofs.Current.Response
import NodeBridge.Proofs.Legacy.Conversion
import NodeBridge.Proofs.Legacy.Response

/-!
Responses on the way into the legacy schema and back. A response about the next block that
was read itself comes back under the adaptive reading: the legacy form does not read as a
response of the current schema, for it names no method, and what its block says in the words
of the legacy schema is put together again.
-/

namespace NodeBridge

namespace Current

theorem Block.readable_of_json {json : Json} {block : Block}
    (reads : Block.ofJson json = .ok block) :
    ∀ transaction ∈ block.transactions, transaction.datums.Readable := by
  intro transaction member
  simp only [Block.ofJson, bind_eq_ok] at reads
  obtain ⟨_, -, nonce, -, _, -, _, -, _, -, _, -, _, -, rest⟩ := reads
  -- The nonce is read or not, and what follows is the same.
  cases nonce with
  | none =>
      simp only [bind_eq_ok] at rest
      obtain ⟨_, -, _, -, _, -, _, -, _, -, transactions, found, _, -, _, -, same⟩ := rest
      cases same
      obtain ⟨item, read⟩ := Decode.of_mem_list_of found member
      exact Transaction.readable_of_json read
  | some fields =>
      simp only [bind_eq_ok] at rest
      obtain ⟨_, -, _, -, _, -, _, -, _, -, transactions, found, _, -, _, -, same⟩ := rest
      cases same
      obtain ⟨item, read⟩ := Decode.of_mem_list_of found member
      exact Transaction.readable_of_json read

theorem BlockResult.readable_of_json {json : Json} {result : BlockResult}
    (reads : BlockResult.ofJson json = .ok result) {block : Block}
    (holds : result.block = some block) :
    ∀ transaction ∈ block.transactions, transaction.datums.Readable := by
  simp only [BlockResult.ofJson, bind_eq_ok] at reads
  obtain ⟨_, -, _, -, _, -, found, read, _, -, same⟩ := reads
  cases same
  rw [show found = some block from holds] at read
  exact Block.readable_of_json (Decode.of_optional read)

structure Issuer.IsHex (issuer : Issuer) : Prop where
  vrfVerificationKey : Text.IsHex issuer.vrfVerificationKey
  kesVerificationKey : Text.IsHex issuer.operationalCertificate.kesVerificationKey
  leaderOutput : ∀ value ∈ issuer.leaderValue, Text.IsHex value.output
  leaderProof : ∀ value ∈ issuer.leaderValue, Text.IsHex value.proof

def VrfProof.isBlank (value : VrfProof) : Bool := value.output.isEmpty && value.proof.isEmpty

/-- What a block needs to come back: it is of an era and a kind that the legacy schema knows,
and its binary contents are hexadecimal digits. -/
structure Block.IsPortable (block : Block) : Prop where
  type : block.type = "praos"
  era : block.era ∈ Legacy.Era.all.map Legacy.Era.name
  issuer : block.issuer.IsHex

/-- How a block that came back agrees with the one that left. -/
structure Block.Agree (back origin : Block) : Prop where
  type : back.type = origin.type
  era : back.era = origin.era
  id : back.id = origin.id
  ancestor : back.ancestor = origin.ancestor
  nonce : back.nonce = origin.nonce.filter fun nonce => !nonce.isBlank
  height : back.height = origin.height
  size : back.size = origin.size
  slot : back.slot = origin.slot
  transactions : List.Forall₂ (fun returned sent => sent.throughLegacy = .ok returned)
    back.transactions origin.transactions
  protocolVersion : back.protocolVersion = origin.protocolVersion
  issuer : back.issuer = origin.issuer

end Current

namespace Legacy

theorem Era.of_name_of_mem {name : String} (member : name ∈ Era.all.map Era.name) :
    ∃ era, Era.ofName? name = some era ∧ era.name = name := by
  obtain ⟨era, -, rfl⟩ := List.mem_map.mp member
  refine ⟨era, ?_, rfl⟩
  cases era <;> decide

namespace Header

variable (block : Current.Block)

theorem find_proof_entries (proof : Current.VrfProof) :
    (proofEntries proof).find? "output" = some proof.output ∧
      (proofEntries proof).find? "proof" = some proof.proof := by
  constructor <;> rfl

theorem current_certificate_of_current (hex : block.issuer.IsHex) :
    (ofCurrent block).currentCertificate = .ok block.issuer.operationalCertificate := by
  have key := Text.base64_to_hex_hex_to_base64 hex.kesVerificationKey
  simp [currentCertificate, ofCurrent, Json.get_cons, key]

theorem current_nonce_of_current :
    (ofCurrent block).currentNonce = block.nonce.filter fun nonce => !nonce.isBlank := by
  unfold currentNonce ofCurrent
  cases block.nonce with
  | none => rfl
  | some nonce =>
      obtain ⟨output, proof⟩ := find_proof_entries nonce
      simp only [output, proof, Option.getD_some, Option.filter_some, Current.VrfProof.isBlank]
      by_cases blank : nonce.output.isEmpty = true ∧ nonce.proof.isEmpty = true
      · simp [blank.1, blank.2]
      · have filled : (nonce.output.isEmpty && nonce.proof.isEmpty) = false := by
          simpa using blank
        rw [if_neg blank, filled]
        rfl

theorem current_leader_value_of_current (hex : block.issuer.IsHex) :
    (ofCurrent block).currentLeaderValue = block.issuer.leaderValue := by
  unfold currentLeaderValue ofCurrent
  cases leader : block.issuer.leaderValue with
  | none => rfl
  | some value =>
      have output := Text.base64_to_hex_hex_to_base64 (hex.leaderOutput value leader)
      have proof := Text.base64_to_hex_hex_to_base64 (hex.leaderProof value leader)
      simp only [(find_proof_entries _).1, (find_proof_entries _).2, output, proof]

theorem current_version_of_current :
    (ofCurrent block).currentVersion = block.protocolVersion := rfl

end Header

namespace Block

variable {block : Current.Block}

theorem current_transactions_of_current (transactions : List Current.Transaction) :
    currentTransactions ((transactions.map Transaction.ofCurrent).map Transaction.settle) =
      .ok (transactions.map Current.Transaction.carried) := by
  induction transactions with
  | nil => rfl
  | cons transaction transactions induction =>
      simp only [List.map_cons, currentTransactions]
      rw [Current.Transaction.to_current_settle_of_current, Decode.ok_bind, induction,
        Decode.ok_bind]

theorem to_current_settle_of_current (era : Era) (hex : block.issuer.IsHex) :
    (ofCurrent block).settle.toCurrent era = .ok { block with
      type := "praos"
      era := era.name
      nonce := block.nonce.filter fun nonce => !nonce.isBlank
      transactions := block.transactions.map Current.Transaction.carried } := by
  have header : (ofCurrent block).settle.header = Header.ofCurrent block := rfl
  have body : (ofCurrent block).settle.body =
      (block.transactions.map Transaction.ofCurrent).map Transaction.settle := rfl
  have certificate := Header.current_certificate_of_current block hex
  have leader := Header.current_leader_value_of_current block hex
  have vrf := Text.base64_to_hex_hex_to_base64 hex.vrfVerificationKey
  unfold toCurrent
  simp only [header, body, certificate, Decode.ok_bind, current_transactions_of_current, leader,
    Header.current_nonce_of_current, Header.current_version_of_current]
  simp only [Header.ofCurrent, vrf, settle, ofCurrent]

theorem agree_to_current (portable : block.IsPortable)
    (readable : ∀ transaction ∈ block.transactions, transaction.datums.Readable) :
    ∃ era back, Era.ofName? block.era = some era ∧
      (ofCurrent block).settle.toCurrent era = .ok back ∧ back.Agree block := by
  obtain ⟨era, found, name⟩ := Era.of_name_of_mem portable.era
  refine ⟨era, _, found, to_current_settle_of_current era portable.issuer, ?_⟩
  constructor
  · exact portable.type.symm
  · exact name
  · rfl
  · rfl
  · rfl
  · rfl
  · rfl
  · rfl
  · rw [List.forall₂_map_left_iff, List.forall₂_same]
    intro transaction member
    exact Current.Transaction.through_legacy_eq (readable transaction member)
  · rfl
  · rfl

end Block

end Legacy

/-! Points and tips. -/

/-- A point as the legacy schema keeps it, which has no height of zero. -/
def BlockPoint.settle (point : BlockPoint) : BlockPoint :=
  { point with height := point.height.filter (· ≠ 0) }

/-- The point of a step back, which has no height. -/
def Point.withoutHeight : Point → Point
  | .symbolic name => .symbolic name
  | .structural block => .structural { block with height := none }

def BlockPoint.blank : BlockPoint := ⟨"", 0, none⟩

theorem Legacy.BlockPoint.to_current_of_current (point : NodeBridge.BlockPoint) :
    (ofCurrent point).toCurrent = point.settle := by
  obtain ⟨id, slot, height⟩ := point
  cases height with
  | none => rfl
  | some height =>
      by_cases zero : height = 0
      · subst zero
        rfl
      · simp [ofCurrent, toCurrent, NodeBridge.BlockPoint.settle, Option.filter_some, zero]

theorem Legacy.BlockResult.to_current_tip_of_current (tip : Option NodeBridge.BlockPoint) :
    (tipOfCurrent tip).toCurrent = (tip.getD NodeBridge.BlockPoint.blank).settle := by
  cases tip with
  | none => rfl
  | some point => exact Legacy.BlockPoint.to_current_of_current point

theorem Legacy.Point.to_current_of_current (point : NodeBridge.Point) :
    (ofCurrent point).toCurrent = point.withoutHeight := by
  cases point with
  | symbolic name => rfl
  | structural block => rfl

namespace Current.BlockResult

/-- What a result needs to come back: it steps back to a point, or forward to a block that
can come back. -/
inductive IsPortable (result : BlockResult) : Prop where
  | backward (point : Point) (direction : result.direction = Current.backward)
      (holds : result.point = some point)
  | forward (block : Block) (direction : result.direction = Current.forward)
      (holds : result.block = some block) (portable : block.IsPortable)

/-- How a result that came back agrees with the one that left. -/
structure Agree (back origin : BlockResult) : Prop where
  direction : back.direction = origin.direction
  tip : back.tip = some (origin.tip.getD BlockPoint.blank).settle
  point : origin.direction = Current.backward →
    back.point = origin.point.map Point.withoutHeight
  block : origin.direction = Current.forward → Option.Rel Block.Agree back.block origin.block

theorem agree_through_legacy {result : BlockResult} (portable : result.IsPortable)
    (readable : ∀ block, result.block = some block →
      ∀ transaction ∈ block.transactions, transaction.datums.Readable) :
    ∃ legacy settled back, Legacy.BlockResult.ofCurrent? result = .ok (some legacy) ∧
      Legacy.Result.ofJson legacy.toJson = .ok (.block settled) ∧
      settled.toCurrent = .ok back ∧ back.Agree result := by
  have tip := Legacy.BlockResult.to_current_tip_of_current result.tip
  cases portable with
  | backward point direction holds =>
      have other : result.direction ≠ Current.forward := by
        rw [direction]
        decide
      refine ⟨_, _, _, ?_, Legacy.Result.of_json_backward (Legacy.Point.ofCurrent point)
        (Legacy.BlockResult.tipOfCurrent result.tip), rfl, ?_⟩
      · simp [Legacy.BlockResult.ofCurrent?, direction, holds, Current.backward, Current.forward]
      · constructor
        · exact direction.symm
        · exact congrArg some tip
        · intro _
          rw [holds, Option.map_some, Legacy.Point.to_current_of_current]
        · intro forward
          exact absurd forward other
  | forward block direction holds portable =>
      have other : result.direction ≠ Current.backward := by
        rw [direction]
        decide
      have all := readable block holds
      obtain ⟨era, back, found, converts, agree⟩ := Legacy.Block.agree_to_current portable all
      have bodies : ∀ transaction ∈ (Legacy.Block.ofCurrent block).body,
          transaction.witness.datums.Readable := by
        intro transaction member
        obtain ⟨origin, there, rfl⟩ := List.mem_map.mp member
        exact all origin there
      refine ⟨_, _, ⟨Current.forward, some (Legacy.BlockResult.tipOfCurrent result.tip).toCurrent,
        some back, none⟩, ?_, Legacy.Result.of_json_forward era
          (Legacy.BlockResult.tipOfCurrent result.tip) bodies, ?_, ?_⟩
      · simp [Legacy.BlockResult.ofCurrent?, direction, holds, Legacy.EraBlock.ofCurrent, found]
      · simp only [Legacy.BlockResult.toCurrent, Legacy.EraBlock.toCurrent, converts]
        rfl
      · constructor
        · exact direction.symm
        · exact congrArg some tip
        · intro backward
          exact absurd backward other
        · intro _
          rw [holds]
          exact .some agree

end Current.BlockResult

namespace Adaptive

/-- A printed legacy response is not a response of the current schema. -/
theorem current_response_of_legacy (legacy : Legacy.Response) :
    Current.Response.ofJson legacy.toJson = .error (.unknownMethod "") := by
  have unknown : Current.knownMethod? "" = none := by decide
  simp [Current.Response.ofJson, Legacy.Response.toJson, Json.get_compact, Json.get_cons,
    Decode.text, Decode.optional, unknown]

/-- A printed legacy response is no document of the current schema. -/
theorem attempt_current_of_legacy_response (legacy : Legacy.Response) :
    Reading.attempt response.kind .current response.current response.fitsCurrent
      legacy.toJson = .error (.unknownMethod "") := by
  simp only [Reading.attempt, response, current_response_of_legacy]

theorem decode_of_legacy {legacy settled : Legacy.Response}
    (reads : Legacy.Response.ofJson legacy.toJson = .ok settled) :
    response.decode legacy.toJson = settled.toCurrent :=
  Reading.decode_of_legacy (attempt_current_of_legacy_response legacy) reads rfl

/-- A response about the next block comes back from its legacy form. -/
theorem decode_encode_response_agrees {json : Json} {sent : Current.Response}
    {result : Current.BlockResult} (reads : Current.Response.ofJson json = .ok sent)
    (holds : sent.blockResult = .ok result) (portable : result.IsPortable) :
    ∃ document back returned, encodeResponse sent = .ok document ∧
      response.decode document = .ok back ∧ back.method = sent.method ∧
      back.id = sent.id.settle ∧ back.blockResult = .ok returned ∧ returned.Agree result := by
  obtain ⟨method, -, inner, read⟩ := Current.Response.block_result_of_json reads holds
  obtain ⟨legacy, settled, returned, written, again, converts, agree⟩ :=
    Current.BlockResult.agree_through_legacy portable fun block there =>
      Current.BlockResult.readable_of_json read there
  have other : ¬sent.method = Current.findIntersection := by
    rw [method]
    decide
  let wrapped : Legacy.Response := ⟨"response", "1.0", "ogmios",
    Legacy.Response.legacyMethod sent.method, some (.block legacy), sent.id⟩
  have outer : Legacy.Response.ofCurrent sent = .ok wrapped := by
    unfold Legacy.Response.ofCurrent Legacy.Response.resultOfCurrent
    rw [if_neg other, if_pos method, holds]
    simp only [written, Decode.ok_bind]
    rfl
  refine ⟨wrapped.toJson, ⟨"2.0", Current.nextBlock, some (.block returned), none,
    sent.id.settle⟩, returned, ?_, ?_, method.symm, rfl, rfl, agree⟩
  · unfold encodeResponse
    rw [outer]
    rfl
  · have back := Legacy.Response.of_json_to_json (show wrapped.result = _ from rfl) again
    rw [decode_of_legacy back]
    simp only [Legacy.Response.toCurrent, converts, Decode.ok_bind]
    rfl

/-- A step forward to a block with a payment. -/
def stepForward : Json := .object [
  ("method", .text "nextBlock"),
  ("result", .object [("direction", .text "forward"), ("block", .object [
    ("type", .text "praos"), ("era", .text "babbage"), ("id", .text "block"),
    ("height", .int 3), ("slot", .int 9),
    ("transactions", .list [Current.Transaction.payment]),
    ("issuer", .object [("vrfVerificationKey", .text "0a"), ("leaderValue", .object [
      ("output", .text "0b"), ("proof", .text "0c")])])])]),
  ("id", .text "step")]

def steppedBlock : Current.Block where
  type := "praos"
  era := "babbage"
  id := "block"
  ancestor := ""
  nonce := none
  height := 3
  size := 0
  slot := 9
  transactions := [Current.Transaction.paid]
  protocolVersion := ⟨0, 0, 0⟩
  issuer := ⟨"", "0a", .empty, some ⟨"0b", "0c"⟩⟩

def stepped : Current.BlockResult := ⟨Current.forward, none, some steppedBlock, none⟩

theorem step_forward_reads : Current.Response.ofJson stepForward =
    .ok ⟨"", Current.nextBlock, some (.block stepped), none, .text "step"⟩ := by
  decide +kernel

theorem is_portable_stepped_block : steppedBlock.IsPortable where
  type := rfl
  era := by decide
  issuer := {
    vrfVerificationKey := by decide +kernel
    kesVerificationKey := by decide +kernel
    leaderOutput := by
      intro value member
      cases member
      decide +kernel
    leaderProof := by
      intro value member
      cases member
      decide +kernel }

theorem decode_encode_response_agrees_of_step_forward :
    ∃ document back returned,
      encodeResponse ⟨"", Current.nextBlock, some (.block stepped), none, .text "step"⟩ =
        .ok document ∧
      response.decode document = .ok back ∧ back.method = Current.nextBlock ∧
      back.id = .text "step" ∧ back.blockResult = .ok returned ∧ returned.Agree stepped :=
  decode_encode_response_agrees step_forward_reads rfl
    (.forward steppedBlock rfl rfl is_portable_stepped_block)

end Adaptive

end NodeBridge
