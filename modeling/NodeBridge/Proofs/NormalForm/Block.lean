import NodeBridge.Proofs.NormalForm.Transaction

/-!
Blocks in their normal forms, in either schema, the blocks of any era among them. A proof of the
leader that says nothing is dropped; the transactions settle one by one.
-/

namespace NodeBridge

open Json Decode

namespace Current

namespace VrfProof

def fields (value : VrfProof) : Fields :=
  compact [] [("output", .text value.output), ("proof", .text value.proof)]

theorem of_json_fields (what : String) (value : VrfProof) :
    ofJson what (.object value.fields) = .ok value := by
  simp [ofJson, fields, get_compact, get_cons]

/-- The fields of a proof are found if the proof says anything. -/
theorem optional_object (what : String) (proof : Option VrfProof) :
    optional (object what) (ofOption toJson proof).settle =
      .ok ((retained toJson proof).map fields) :=
  optional_retained fun value _ => object_object what value.fields

end VrfProof

theorem ProtocolVersion.of_json_to_json (version : ProtocolVersion) :
    ofJson version.toJson = .ok version := by
  simp [ofJson, toJson, get_compact, get_cons]

theorem OperationalCertificate.of_json_settle (certificate : OperationalCertificate) :
    ofJson certificate.toJson.settle = .ok certificate := by
  simp [ofJson, toJson, get_compact, get_cons]

namespace Issuer

def settle (issuer : Issuer) : Issuer :=
  { issuer with leaderValue := retained VrfProof.toJson issuer.leaderValue }

theorem of_json_settle (issuer : Issuer) : ofJson issuer.toJson.settle = .ok issuer.settle := by
  have leader := VrfProof.optional_object "issuer.leaderValue" issuer.leaderValue
  cases found : retained VrfProof.toJson issuer.leaderValue with
  | none =>
      rw [found] at leader
      simp [ofJson, toJson, get_compact, get_cons, settle, leader, found,
        OperationalCertificate.of_json_settle]
  | some value =>
      rw [found] at leader
      simp [ofJson, toJson, get_compact, get_cons, settle, leader, found,
        OperationalCertificate.of_json_settle, VrfProof.of_json_fields, Except.map]

theorem to_json_settle (issuer : Issuer) : issuer.settle.toJson = issuer.toJson := by
  apply congrArg Json.object
  apply compact_congr
  simp [heeded, settle, settle_of_option_retained]

end Issuer

namespace Block

/-- A block as it comes back after it was printed. -/
def settle (block : Block) : Block :=
  { block with
    nonce := retained VrfProof.toJson block.nonce
    transactions := block.transactions.map Transaction.settle
    issuer := block.issuer.settle }

theorem of_json_to_json {block : Block}
    (readable : ∀ transaction ∈ block.transactions, transaction.datums.Readable) :
    ofJson block.toJson = .ok block.settle := by
  have transactions : listOf "block.transactions" Transaction.ofJson
      (Json.list (block.transactions.map Transaction.toJson)).settle =
        .ok (block.transactions.map Transaction.settle) :=
    list_of_settle "block.transactions" fun transaction member =>
      Transaction.of_json_to_json (readable transaction member)
  have protocol : (Json.object [("version", block.protocolVersion.toJson)]).settle =
      .object [("version", block.protocolVersion.toJson)] := rfl
  have nonce := VrfProof.optional_object "block.nonce" block.nonce
  cases found : retained VrfProof.toJson block.nonce with
  | none =>
      rw [found] at nonce
      simp [ofJson, toJson, get_compact, get_cons, settle, transactions, protocol, nonce, found,
        Issuer.of_json_settle, ProtocolVersion.of_json_to_json]
  | some value =>
      rw [found] at nonce
      simp [ofJson, toJson, get_compact, get_cons, settle, transactions, protocol, nonce, found,
        Issuer.of_json_settle, ProtocolVersion.of_json_to_json, VrfProof.of_json_fields,
        Except.map]

theorem to_json_settle (block : Block) : block.settle.toJson = block.toJson := by
  have transactions := map_map_of_same Transaction.to_json_settle block.transactions
  apply congrArg Json.object
  apply compact_congr
  simp [heeded, settle, transactions, settle_of_option_retained, Issuer.to_json_settle]

theorem is_normalizing : IsNormalizing ofJson toJson := by
  intro json block reads
  exact settles_of_again (of_json_to_json (readable_of_json reads)) block.to_json_settle

end Block

end Current

namespace Legacy

namespace Block

theorem to_json_settle (block : Block) : block.settle.toJson = block.toJson := by
  have body := map_map_of_same Transaction.to_json_settle block.body
  apply congrArg Json.object
  apply compact_congr
  simp [heeded, settle, body]

theorem is_normalizing : IsNormalizing ofJson toJson := by
  intro json block reads
  exact settles_of_again (of_json_to_json (readable_of_json reads)) block.to_json_settle

end Block

namespace EraBlock

def settle : EraBlock → EraBlock
  | .absent => .absent
  | .byron raw => .byron raw
  | .ofEra era block => .ofEra era block.settle

/-- Of no later era there is anything beside a block of the first one. -/
theorem first_era_byron (raw : Json) : firstEra? [(Legacy.byron, raw)] Era.all = none := by
  simp [firstEra?, Era.all, Era.name, Legacy.byron, get_cons]

theorem again_of_json {json : Json} {block : EraBlock} (reads : ofJson json = .ok block) :
    ofJson block.toJson = .ok block.settle := by
  simp only [ofJson, bind_eq_ok] at reads
  obtain ⟨fields, -, reads⟩ := reads
  split at reads
  · next era first =>
      obtain ⟨found, read, rfl⟩ := map_eq_ok.mp reads
      exact EraBlock.of_json_to_json era (Block.readable_of_json read)
  · split at reads
    · cases reads
      rfl
    · next full =>
        cases reads
        simp [ofJson, toJson, settle, first_era_byron, get_cons, full]

theorem to_json_settle (block : EraBlock) : block.settle.toJson = block.toJson := by
  cases block with
  | absent => rfl
  | byron raw => rfl
  | ofEra era block => simp only [settle, toJson, block.to_json_settle]

theorem is_normalizing : IsNormalizing ofJson toJson := by
  intro json block reads
  exact settles_of_again (again_of_json reads) block.to_json_settle

end EraBlock

end Legacy

end NodeBridge
