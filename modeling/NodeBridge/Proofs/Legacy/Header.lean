import NodeBridge.Proofs.Adaptive.Refusals
import NodeBridge.Proofs.Adaptive.Retelling

/-!
Headers of legacy blocks on the way into the current schema and back. All that the current
schema has a place for comes back. It has none for the hash of the block's contents, and the
hash of the header is written there instead.
-/

namespace NodeBridge.Legacy

namespace Header

/-- What an operational certificate says. -/
structure Certifies (header : Header) (certificate : Current.OperationalCertificate) : Prop where
  count : Decode.integer "opCert.count" (Json.get header.opCert "count") = .ok certificate.count
  period : Decode.integer "opCert.kesPeriod" (Json.get header.opCert "kesPeriod") =
    .ok certificate.kesPeriod
  key : Decode.text "opCert.hotVk" (Json.get header.opCert "hotVk") =
    .ok certificate.kesVerificationKey

/-- A header whose binary contents are in base 64, whose operational certificate can be read, and
whose nonce and leader value are absent or whole. -/
structure IsRegular (header : Header) : Prop where
  issuerVrf : Text.IsBase64 header.issuerVrf
  certificate : ∃ certificate, header.Certifies certificate ∧
    Text.IsBase64 certificate.kesVerificationKey
  nonce : header.nonce = OrderedMap.empty ∨
    ∃ proof, header.nonce.Same (proofEntries proof) ∧ proof.isBlank = false
  leaderValue : header.leaderValue = OrderedMap.empty ∨
    ∃ proof, header.leaderValue.Same (proofEntries proof) ∧ Text.IsBase64 proof.output ∧
      Text.IsBase64 proof.proof

/-- Headers that agree in all but the hash of the block and the signature. -/
structure Agree (back origin : Header) : Prop where
  blockHeight : back.blockHeight = origin.blockHeight
  blockSize : back.blockSize = origin.blockSize
  slot : back.slot = origin.slot
  prevHash : back.prevHash = origin.prevHash
  issuerVk : back.issuerVk = origin.issuerVk
  issuerVrf : back.issuerVrf = origin.issuerVrf
  nonce : back.nonce.Same origin.nonce
  leaderValue : back.leaderValue.Same origin.leaderValue
  major : back.currentVersion.major = origin.currentVersion.major
  minor : back.currentVersion.minor = origin.currentVersion.minor
  certificate : ∀ certificate, origin.Certifies certificate → back.Certifies certificate

variable {header : Header}

theorem complaints_of_certifies {certificate : Current.OperationalCertificate}
    (certifies : header.Certifies certificate) : header.complaints = [] := by
  obtain ⟨count, period, key⟩ := certifies
  simp only [complaints, count, period, key, complaintsOf, List.append_nil]

theorem current_certificate_of_certifies {certificate : Current.OperationalCertificate}
    (certifies : header.Certifies certificate) :
    header.currentCertificate = .ok { certificate with
      kesVerificationKey := Text.base64ToHex certificate.kesVerificationKey } := by
  obtain ⟨count, period, key⟩ := certifies
  unfold currentCertificate
  by_cases none : header.opCert = []
  · rw [none] at count period key
    obtain ⟨number, kesPeriod, verificationKey⟩ := certificate
    cases count
    cases period
    cases key
    rw [none]
    rfl
  · have there : ¬header.opCert.isEmpty = true := by simpa using none
    rw [if_neg there, count, period, key]
    rfl

theorem find_of_same {entries : OrderedMap String String} {proof : Current.VrfProof}
    (same : entries.Same (proofEntries proof)) :
    entries.find? "output" = some proof.output ∧ entries.find? "proof" = some proof.proof := by
  rw [same, same]
  exact find_proof_entries proof

theorem Certifies.unique {certificate other : Current.OperationalCertificate}
    (left : header.Certifies certificate) (right : header.Certifies other) :
    certificate = other := by
  have count := left.count.symm.trans right.count
  have period := left.period.symm.trans right.period
  have key := left.key.symm.trans right.key
  cases certificate
  cases other
  cases count
  cases period
  cases key
  rfl

section Back

variable {block : Current.Block}

theorem nonce_of_current (regular : header.IsRegular)
    (sent : block.nonce = header.currentNonce) :
    (ofCurrent block).nonce.Same header.nonce := by
  have returned : (ofCurrent block).nonce =
      (block.nonce.map proofEntries).getD OrderedMap.empty := by
    unfold ofCurrent
    cases block.nonce <;> rfl
  rw [returned, sent]
  rcases regular.nonce with absent | ⟨proof, same, filled⟩
  · have none : header.currentNonce = none := by
      unfold currentNonce
      rw [absent]
      rfl
    rw [none, absent]
    exact OrderedMap.Same.refl _
  · obtain ⟨output, value⟩ := find_of_same same
    have whole : header.currentNonce = some proof := by
      unfold currentNonce
      simp only [output, value, Option.getD_some]
      apply if_neg
      simpa [Current.VrfProof.isBlank] using filled
    rw [whole]
    exact fun key => (same key).symm

theorem leader_value_of_current (regular : header.IsRegular)
    (sent : block.issuer.leaderValue = header.currentLeaderValue) :
    (ofCurrent block).leaderValue.Same header.leaderValue := by
  rcases regular.leaderValue with absent | ⟨proof, same, outputCanonical, valueCanonical⟩
  · have none : header.currentLeaderValue = none := by
      unfold currentLeaderValue
      rw [absent]
      rfl
    unfold ofCurrent
    rw [sent, none, absent]
    exact OrderedMap.Same.refl _
  · obtain ⟨output, value⟩ := find_of_same same
    have whole : header.currentLeaderValue =
        some ⟨Text.base64ToHex proof.output, Text.base64ToHex proof.proof⟩ := by
      unfold currentLeaderValue
      rw [output, value]
    have returned : (ofCurrent block).leaderValue = proofEntries proof := by
      unfold ofCurrent
      simp only [sent, whole, Text.hex_to_base64_base64_to_hex outputCanonical,
        Text.hex_to_base64_base64_to_hex valueCanonical]
    rw [returned]
    exact fun key => (same key).symm

theorem certifies_of_current (regular : header.IsRegular)
    (sent : header.currentCertificate = .ok block.issuer.operationalCertificate)
    {certificate : Current.OperationalCertificate} (certifies : header.Certifies certificate) :
    (ofCurrent block).Certifies certificate := by
  obtain ⟨found, foundCertifies, canonical⟩ := regular.certificate
  have same := foundCertifies.unique certifies
  subst same
  rw [current_certificate_of_certifies certifies, Except.ok.injEq] at sent
  have key := Text.hex_to_base64_base64_to_hex canonical
  constructor <;> simp [ofCurrent, ← sent, Json.get_cons, key]

end Back

end Header

namespace Block

/-- A block whose header agrees with that of another one, under the same hash. -/
structure HeaderAgrees (back origin : Block) : Prop where
  headerHash : back.headerHash = origin.headerHash
  header : back.header.Agree origin.header

/-- A block whose header is that of another one, the hash of the block included. -/
def KeepsHeader (back origin : Block) : Prop :=
  back.header.blockHash = origin.header.blockHash ∧ back.HeaderAgrees origin

variable {block : Block}

theorem header_agrees_of_current {era : Era} (regular : block.header.IsRegular)
    {current : Current.Block} (converts : block.toCurrent era = .ok current) :
    (ofCurrent current).HeaderAgrees block := by
  simp only [toCurrent, bind_eq_ok] at converts
  obtain ⟨certificate, found, transactions, -, same⟩ := converts
  cases same
  refine ⟨rfl, ?_⟩
  constructor
  · rfl
  · rfl
  · rfl
  · rfl
  · rfl
  · exact Text.hex_to_base64_base64_to_hex regular.issuerVrf
  · exact Header.nonce_of_current regular rfl
  · exact Header.leader_value_of_current regular rfl
  · rfl
  · rfl
  · intro read certifies
    exact Header.certifies_of_current regular found certifies

theorem names_of_to_current {era : Era} {current : Current.Block}
    (converts : block.toCurrent era = .ok current) :
    current.era = era.name ∧ current.id = block.headerHash := by
  simp only [toCurrent, bind_eq_ok] at converts
  obtain ⟨_, -, _, -, same⟩ := converts
  cases same
  exact ⟨rfl, rfl⟩

end Block

theorem Era.of_name (era : Era) : ofName? era.name = some era := by
  cases era <;> decide

theorem EraBlock.of_current_of_era {era : Era} {current : Current.Block}
    (name : current.era = era.name) :
    ofCurrent current = .ok (.ofEra era (Block.ofCurrent current)) := by
  unfold ofCurrent
  rw [name, era.of_name]

/-- A block with a regular header is converted unless a signature of a bootstrap address stands
in the way, and then comes back under its era. Its header agrees with what it was, but the hash of
the header stands in the place of that of the block, which is so lost unless they are the same. -/
theorem EraBlock.keeps_header_iff (era : Era) {block : Block}
    (regular : block.header.IsRegular) :
    FailsOver ((block.body.flatMap fun transaction => transaction.witness.complaints).map
      ConversionError.decode) (ofEra era block).toCurrent ∧
    ∀ current, (ofEra era block).toCurrent = .ok current →
      ∃ back, ofCurrent current = .ok (.ofEra era back) ∧ back.HeaderAgrees block ∧
        back.header.blockHash = block.headerHash ∧
        (back.KeepsHeader block ↔ block.header.blockHash = block.headerHash) := by
  constructor
  · obtain ⟨certificate, certifies, -⟩ := regular.certificate
    have silent := Header.complaints_of_certifies certifies
    have fails := block.fails_over_to_current era
    unfold Block.complaints at fails
    rw [silent, List.nil_append] at fails
    exact fails.converted
  · intro current converts
    have inner : block.toCurrent era = .ok current := converted_eq_ok.mp converts
    have agrees := Block.header_agrees_of_current regular inner
    obtain ⟨name, id⟩ := Block.names_of_to_current inner
    refine ⟨Block.ofCurrent current, of_current_of_era name, agrees, id, ?_⟩
    unfold Block.KeepsHeader
    rw [and_iff_left agrees, show (Block.ofCurrent current).header.blockHash = _ from id]
    exact eq_comm

/-- A block of one transaction whose contents and header have different hashes. -/
def hashedBlock : Block where
  body := [Transaction.ofCurrent Current.Transaction.paid]
  header := {
    blockHash := "0b"
    blockHeight := 3
    blockSize := 64
    issuerVk := "0c"
    issuerVrf := "DQ=="
    leaderValue := OrderedMap.ofList [("output", "Dg=="), ("proof", "Dw==")]
    nonce := OrderedMap.ofList [("output", "EA=="), ("proof", "EQ==")]
    opCert := [("count", .int 1), ("kesPeriod", .int 2), ("hotVk", .text "Eg==")]
    prevHash := "13"
    protocolVersion := OrderedMap.ofList [("major", 7)]
    signature := ""
    slot := 9 }
  headerHash := "0a"

theorem is_regular_hashed_block : hashedBlock.header.IsRegular where
  issuerVrf := ⟨[0x0d], by decide +kernel⟩
  certificate := ⟨⟨1, 2, "Eg=="⟩, ⟨rfl, rfl, rfl⟩, [0x12], by decide +kernel⟩
  nonce := .inr ⟨⟨"EA==", "EQ=="⟩, OrderedMap.Same.refl _, by decide⟩
  leaderValue := by
    refine .inr ⟨⟨"Dg==", "Dw=="⟩, OrderedMap.Same.refl _, ⟨[0x0e], ?_⟩, ⟨[0x0f], ?_⟩⟩
    · decide +kernel
    · decide +kernel

theorem hashed_block_converts :
    ∃ current, (EraBlock.ofEra .babbage hashedBlock).toCurrent = .ok current := by
  apply exists_of_is_ok
  decide +kernel

theorem keeps_header_iff_of_hashed_block :
    hashedBlock.header.IsRegular ∧
      ∃ current back, (EraBlock.ofEra .babbage hashedBlock).toCurrent = .ok current ∧
        EraBlock.ofCurrent current = .ok (.ofEra .babbage back) ∧
        back.HeaderAgrees hashedBlock ∧ back.header.blockHash = "0a" := by
  have regular := is_regular_hashed_block
  obtain ⟨current, converts⟩ := hashed_block_converts
  obtain ⟨-, returns⟩ := EraBlock.keeps_header_iff .babbage regular
  obtain ⟨back, written, agrees, hash, -⟩ := returns current converts
  exact ⟨regular, current, back, converts, written, agrees, hash⟩

/-- The hash of its contents does not come back. -/
theorem block_hash_lost :
    EraBlock.ofJson (EraBlock.ofEra .babbage hashedBlock).toJson =
        .ok (.ofEra .babbage hashedBlock) ∧
      hashedBlock.header.IsRegular ∧
      ∃ current back, (EraBlock.ofEra .babbage hashedBlock).toCurrent = .ok current ∧
        EraBlock.ofCurrent current = .ok (.ofEra .babbage back) ∧
        ¬back.KeepsHeader hashedBlock := by
  obtain ⟨current, converts⟩ := hashed_block_converts
  obtain ⟨name, id⟩ := Block.names_of_to_current (converted_eq_ok.mp converts)
  refine ⟨by decide +kernel, is_regular_hashed_block, current, Block.ofCurrent current, converts,
    EraBlock.of_current_of_era name, ?_⟩
  rintro ⟨kept, -⟩
  have same : current.id = "0b" := kept
  rw [id] at same
  exact absurd same (by decide)

end NodeBridge.Legacy
