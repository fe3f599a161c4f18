import NodeBridge.Proofs.Adaptive.Reading
import NodeBridge.Proofs.Adaptive.Response
import NodeBridge.Proofs.Legacy.Result
import NodeBridge.Session.ChainFollower

/-!
The point of a response that is told again in the words of the legacy schema. Whatever can be
written in the legacy schema is read again or names no point there, and nothing about the
binary contents of a block has to be known for that: a block keeps its point in any case.
-/

namespace NodeBridge

theorem converted_eq_ok {α : Type} {outcome : Decoded α} {value : α} :
    outcome.converted = .ok value ↔ outcome = .ok value := by
  cases outcome with
  | error error => exact iff_of_false (fun same => nomatch same) (fun same => nomatch same)
  | ok found =>
      show Except.ok found = Except.ok value ↔ _
      rw [Except.ok.injEq, Except.ok.injEq]

/-! What was read in the legacy schema can be read again. -/

namespace Legacy

theorem Witness.readable_of_json {json : Json} {witness : Witness}
    (reads : Witness.ofJson json = .ok witness) : witness.datums.Readable := by
  simp only [Witness.ofJson, bind_eq_ok] at reads
  obtain ⟨_, -, _, -, _, -, datums, found, same⟩ := reads
  cases same
  exact Datums.readable_of_json found

theorem Transaction.readable_of_json {json : Json} {transaction : Transaction}
    (reads : Transaction.ofJson json = .ok transaction) :
    transaction.witness.datums.Readable := by
  simp only [Transaction.ofJson, bind_eq_ok] at reads
  obtain ⟨_, -, _, -, _, -, _, -, witness, found, _, -, same⟩ := reads
  cases same
  exact Witness.readable_of_json found

theorem Transaction.datums_of_to_current {transaction : Transaction}
    {current : Current.Transaction} (converts : transaction.toCurrent = .ok current) :
    current.datums = transaction.witness.datums := by
  simp only [Transaction.toCurrent, bind_eq_ok] at converts
  obtain ⟨_, -, same⟩ := converts
  cases same
  rfl

namespace Block

theorem readable_of_json {json : Json} {block : Block} (reads : Block.ofJson json = .ok block) :
    ∀ transaction ∈ block.body, transaction.witness.datums.Readable := by
  intro transaction member
  simp only [Block.ofJson, bind_eq_ok] at reads
  obtain ⟨_, -, body, found, _, -, _, -, same⟩ := reads
  cases same
  obtain ⟨item, read⟩ := Decode.of_mem_list_of found member
  exact Transaction.readable_of_json read

theorem of_mem_current_transactions {transactions : List Transaction}
    {currents : List Current.Transaction}
    (converts : currentTransactions transactions = .ok currents) :
    ∀ current ∈ currents, ∃ transaction ∈ transactions, transaction.toCurrent = .ok current := by
  induction transactions generalizing currents with
  | nil =>
      cases converts
      simp
  | cons transaction transactions induction =>
      simp only [currentTransactions, bind_eq_ok] at converts
      obtain ⟨first, found, rest, converted, same⟩ := converts
      cases same
      intro current member
      rcases List.mem_cons.mp member with rfl | later
      · exact ⟨transaction, List.mem_cons_self, found⟩
      · obtain ⟨origin, there, converts⟩ := induction converted current later
        exact ⟨origin, List.mem_cons_of_mem _ there, converts⟩

theorem readable_of_to_current {era : Era} {block : Block} {current : Current.Block}
    (readable : ∀ transaction ∈ block.body, transaction.witness.datums.Readable)
    (converts : block.toCurrent era = .ok current) :
    ∀ transaction ∈ current.transactions, transaction.datums.Readable := by
  intro transaction member
  simp only [toCurrent, bind_eq_ok] at converts
  obtain ⟨_, -, transactions, found, same⟩ := converts
  cases same
  obtain ⟨origin, there, converted⟩ := of_mem_current_transactions found transaction member
  rw [Transaction.datums_of_to_current converted]
  exact readable origin there

end Block

theorem EraBlock.readable_of_to_current {json : Json} {block : EraBlock}
    {current : Current.Block} (reads : EraBlock.ofJson json = .ok block)
    (converts : block.toCurrent = .ok current) :
    ∀ transaction ∈ current.transactions, transaction.datums.Readable := by
  cases block with
  | absent => cases converts
  | byron raw => cases converts
  | ofEra era block =>
      have converted : block.toCurrent era = .ok current := converted_eq_ok.mp converts
      simp only [EraBlock.ofJson, bind_eq_ok] at reads
      obtain ⟨fields, -, reads⟩ := reads
      split at reads
      · obtain ⟨found, read, same⟩ := map_eq_ok.mp reads
        cases same
        exact Block.readable_of_to_current (Block.readable_of_json read) converted
      · split at reads <;> cases reads

/-- A step forward was read with its block. -/
theorem BlockResult.block_of_json {name : String} {json : Json} {block : EraBlock}
    {tip : BlockPoint} (reads : BlockResult.readVariant name json = .ok (.rollForward block tip)) :
    ∃ inner, EraBlock.ofJson inner = .ok block := by
  unfold readVariant at reads
  split at reads
  · simp only [bind_eq_ok] at reads
    obtain ⟨_, -, read, there, _, -, same⟩ := reads
    cases same
    exact ⟨_, there⟩
  · simp only [bind_eq_ok] at reads
    obtain ⟨_, -, point, -, rest⟩ := reads
    cases point with
    | none => cases rest
    | some point =>
        obtain ⟨tip, -, same⟩ := bind_eq_ok.mp rest
        cases same

theorem BlockResult.readable_of_to_current {name : String} {json : Json} {result : BlockResult}
    {current : Current.BlockResult} {block : Current.Block}
    (reads : BlockResult.readVariant name json = .ok result)
    (converts : result.toCurrent = .ok current) (holds : current.block = some block) :
    ∀ transaction ∈ block.transactions, transaction.datums.Readable := by
  cases result with
  | rollBackward point tip =>
      cases converts
      cases holds
  | rollForward inner tip =>
      simp only [toCurrent, bind_eq_ok] at converts
      obtain ⟨converted, found, same⟩ := converts
      cases same
      cases holds
      obtain ⟨document, there⟩ := block_of_json reads
      exact EraBlock.readable_of_to_current there found

theorem Result.read_variant_of_block {json : Json} {result : BlockResult}
    (reads : Result.ofJson json = .ok (.block result)) :
    ∃ name inner, BlockResult.readVariant name inner = .ok result := by
  simp only [ofJson, bind_eq_ok] at reads
  obtain ⟨fields, -, reads⟩ := reads
  split at reads
  · next name inner first =>
      unfold readVariant at reads
      split at reads
      · obtain ⟨other, -, same⟩ := map_eq_ok.mp reads
        cases same
      · obtain ⟨found, read, same⟩ := map_eq_ok.mp reads
        cases same
        exact ⟨name, inner, read⟩
  · cases reads

end Legacy

/-! Responses whose block can be written in the legacy schema and read again. -/

namespace Current.Response

def IsReadable (response : Response) : Prop :=
  ∀ result block, response.blockResult = .ok result → result.block = some block →
    ∀ transaction ∈ block.transactions, transaction.datums.Readable

/-- A step back to a point has no height there. -/
def IsFlat (response : Response) : Prop :=
  ∀ result block, response.blockResult = .ok result → result.direction = backward →
    result.point = some (.structural block) → block.height = none

theorem readable_of_json {json : Json} {response : Response}
    (reads : Response.ofJson json = .ok response) : response.IsReadable := by
  intro result block holds there
  obtain ⟨-, -, inner, read⟩ := block_result_of_json reads holds
  exact BlockResult.readable_of_json read there

end Current.Response

theorem Legacy.Response.readable_of_to_current {json : Json} {response : Response}
    {current : Current.Response} (reads : Response.ofJson json = .ok response)
    (converts : response.toCurrent = .ok current) : current.IsReadable := by
  intro result block holds there
  obtain ⟨inner, whole, found, read⟩ := Legacy.Response.read_result reads
  unfold toCurrent at converts
  rw [found] at converts
  cases whole with
  | intersection other =>
      cases other <;> cases converts <;> cases holds
  | block legacy =>
      simp only [bind_eq_ok] at converts
      obtain ⟨converted, conversion, same⟩ := converts
      cases same
      cases holds
      obtain ⟨name, json, variant⟩ := Result.read_variant_of_block read
      exact BlockResult.readable_of_to_current variant conversion there

namespace Adaptive

theorem outcome_of_decode {json : Json} {sent : Current.Response}
    (decodes : response.decode json = .ok sent) : sent.HoldsOutcome := by
  rcases Reading.decode_cases decodes with current | ⟨legacy, reads, converts⟩
  · exact Current.Response.outcome_of_json current
  · exact (Legacy.Response.to_current_cases reads converts).1

/-- A response that was read, in either schema, can be read again. -/
theorem readable_of_decode {json : Json} {sent : Current.Response}
    (decodes : response.decode json = .ok sent) : sent.IsReadable := by
  rcases Reading.decode_cases decodes with current | ⟨legacy, reads, converts⟩
  · exact Current.Response.readable_of_json current
  · exact Legacy.Response.readable_of_to_current reads converts

end Adaptive

/-! What a response becomes in the legacy schema, and its point. -/

namespace Legacy

theorem Header.current_certificate_of_any (block : Current.Block) :
    ∃ certificate, (Header.ofCurrent block).currentCertificate = .ok certificate := by
  simp [Header.currentCertificate, Header.ofCurrent, Json.get_cons]

/-- A block comes back with its point, whatever its binary contents are. -/
theorem Block.point_to_current_settle_of_current (era : Era) (block : Current.Block) :
    ∃ back, (Block.ofCurrent block).settle.toCurrent era = .ok back ∧
      back.point = block.point := by
  obtain ⟨certificate, found⟩ := Header.current_certificate_of_any block
  have header : (Block.ofCurrent block).settle.header = Header.ofCurrent block := rfl
  have body : (Block.ofCurrent block).settle.body =
      (block.transactions.map Transaction.ofCurrent).map Transaction.settle := rfl
  unfold Block.toCurrent
  simp only [header, body, found, Decode.ok_bind, current_transactions_of_current]
  exact ⟨_, rfl, rfl⟩

/-- What can become of the result of a response: it has none, or one that names no point, or
it is a step along the chain that the legacy schema knows. -/
theorem Response.result_of_current_cases {response : Current.Response} {outcome : Option Result}
    (written : resultOfCurrent response = .ok outcome) :
    (response.point? = none ∧ ∀ result, outcome ≠ some (.block result)) ∨
      ∃ result legacy, response.blockResult = .ok result ∧
        BlockResult.ofCurrent? result = .ok (some legacy) ∧ outcome = some (.block legacy) := by
  unfold resultOfCurrent at written
  split at written
  · next method =>
      have pointless : response.point? = none := by
        have other : response.method ≠ Current.nextBlock := by
          rw [method]
          decide
        simp [Current.Response.point?, Current.Response.blockResult, other]
      split at written
      · cases written
        refine .inl ⟨pointless, ?_⟩
        intro result same
        obtain ⟨found, -, other⟩ := Option.map_eq_some_iff.mp same
        cases other
      · cases written
  · split at written
    · split at written
      · next result holds =>
          simp only [bind_eq_ok] at written
          obtain ⟨found, converts, same⟩ := written
          cases same
          cases found with
          | some legacy => exact .inr ⟨result, legacy, holds, converts, rfl⟩
          | none =>
              refine .inl ⟨?_, by simp⟩
              unfold BlockResult.ofCurrent? at converts
              split at converts
              · split at converts
                · cases converts
                · obtain ⟨block, -, same⟩ := bind_eq_ok.mp converts
                  cases same
              · next notForward =>
                  split at converts
                  · split at converts <;> cases converts
                  · next notBackward =>
                      simp [Current.Response.point?, holds, notForward, notBackward]
      · cases written
    · next other =>
        cases written
        exact .inl ⟨by simp [Current.Response.point?, Current.Response.blockResult, other],
          by simp⟩

theorem Result.intersection_of_json {result : IntersectionResult} {returned : Result}
    (reads : Result.ofJson result.toJson = .ok returned) :
    ∃ found, returned = .intersection found := by
  have variant {name : String} {value : Json} (there : value.isNull = false)
      (member : name ∈ IntersectionResult.variantNames)
      (reads : Result.ofJson (.object [(name, value)]) = .ok returned) :
      ∃ found, returned = .intersection found := by
    rw [of_json_variant there (List.mem_append_left _ member)] at reads
    unfold readVariant at reads
    rw [if_pos (by simpa using member)] at reads
    obtain ⟨found, -, same⟩ := map_eq_ok.mp reads
    exact ⟨found, same.symm⟩
  cases result with
  | found point tip => exact variant rfl (by decide) reads
  | notFound tip => exact variant rfl (by decide) reads

theorem Response.of_json_to_json_of_result {response : Response} {result : Result}
    (holds : response.result = some result) :
    ofJson response.toJson = (Result.ofJson result.toJson).map fun found =>
      { response with result := some found, reflection := response.reflection.settle } := by
  have full : result.toJson.isBare = false ∧ result.toJson.isNull = false := by
    cases result with
    | intersection result => cases result <;> exact ⟨rfl, rfl⟩
    | block result => cases result <;> exact ⟨rfl, rfl⟩
  have printed : (Json.ofOption Result.toJson response.result).settle = result.toJson := by
    rw [holds]
    exact Json.settle_of_not_bare full.1
  simp only [ofJson, toJson, Decode.object_object, Decode.ok_bind]
  simp [Json.get_compact, Json.get_cons, printed, full.2]
  cases Result.ofJson result.toJson <;> rfl

/-- A printed response without a step along the chain has none when it is read again. -/
theorem Response.no_block_of_json {response returned : Response}
    (other : ∀ result, response.result ≠ some (.block result))
    (reads : Response.ofJson response.toJson = .ok returned) :
    ∃ found, returned.result = some (.intersection found) := by
  cases held : response.result with
  | none => simp [ofJson, toJson, Json.get_compact, Json.get_cons, held, Json.ofOption] at reads
  | some result =>
      cases result with
      | block result => exact absurd held (other result)
      | intersection result =>
          rw [Response.of_json_to_json_of_result held] at reads
          obtain ⟨whole, read, same⟩ := map_eq_ok.mp reads
          obtain ⟨found, rfl⟩ := Result.intersection_of_json read
          exact ⟨found, same ▸ rfl⟩

end Legacy

namespace Adaptive

theorem decode_of_legacy_error {legacy : Legacy.Response} {error : DecodeError}
    (fails : Legacy.Response.ofJson legacy.toJson = .error error) :
    ∃ failure, response.decode legacy.toJson = .error failure := by
  have refused : Reading.attempt response.kind .legacy response.legacy response.fitsLegacy
      legacy.toJson = .error error := by
    simp only [Reading.attempt, response, fails]
  exact ⟨_, Reading.decode_of_neither (attempt_current_of_legacy_response legacy) refused⟩

/-- A printed legacy response without a step along the chain names no point. -/
theorem no_point_of_legacy {legacy : Legacy.Response}
    (other : ∀ result, legacy.result ≠ some (.block result)) :
    (response.decode legacy.toJson).toOption.bind Current.Response.point? = none := by
  cases reads : Legacy.Response.ofJson legacy.toJson with
  | error error =>
      obtain ⟨failure, fails⟩ := decode_of_legacy_error reads
      rw [fails]
      rfl
  | ok settled =>
      obtain ⟨found, holds⟩ := Legacy.Response.no_block_of_json other reads
      rw [decode_of_legacy reads, Legacy.Response.toCurrent, holds]
      cases found <;> rfl

/-- The point of a printed legacy response with a step along the chain. -/
theorem point_of_legacy_block {legacy : Legacy.Response} {result returned : Legacy.BlockResult}
    {current : Current.BlockResult} (holds : legacy.result = some (.block result))
    (reads : Legacy.Result.ofJson result.toJson = .ok (.block returned))
    (converts : returned.toCurrent = .ok current) :
    (response.decode legacy.toJson).toOption.bind Current.Response.point? =
      Current.Response.point? ⟨"2.0", Current.nextBlock, some (.block current), none, .null⟩ := by
  rw [decode_of_legacy (Legacy.Response.of_json_to_json holds reads)]
  simp only [Legacy.Response.toCurrent, converts, Decode.ok_bind]
  rfl

theorem point_of_forward {sent : Current.Response} {result : Current.BlockResult}
    {block : Current.Block} {legacy : Legacy.Response} {inner : Legacy.EraBlock}
    {tip : Legacy.BlockPoint} (readable : sent.IsReadable)
    (holds : sent.blockResult = .ok result) (direction : result.direction = Current.forward)
    (there : result.block = some block) (converts : Legacy.EraBlock.ofCurrent block = .ok inner)
    (carries : legacy.result = some (.block (.rollForward inner tip))) :
    (response.decode legacy.toJson).toOption.bind Current.Response.point? = sent.point? := by
  unfold Legacy.EraBlock.ofCurrent at converts
  split at converts
  · next era found =>
      cases converts
      have bodies : ∀ transaction ∈ (Legacy.Block.ofCurrent block).body,
          transaction.witness.datums.Readable := by
        intro transaction member
        obtain ⟨origin, known, rfl⟩ := List.mem_map.mp member
        exact readable result block holds there origin known
      obtain ⟨back, returns, same⟩ := Legacy.Block.point_to_current_settle_of_current era block
      have current : (Legacy.BlockResult.rollForward
          (.ofEra era (Legacy.Block.ofCurrent block).settle) tip).toCurrent =
          .ok ⟨Current.forward, some tip.toCurrent, some back, none⟩ := by
        simp only [Legacy.BlockResult.toCurrent, Legacy.EraBlock.toCurrent, returns]
        rfl
      rw [point_of_legacy_block carries (Legacy.Result.of_json_forward era tip bodies) current]
      have left : sent.point? = some (.structural block.point) := by
        simp [Current.Response.point?, holds, direction, there]
      rw [left, ← same]
      rfl
  · cases converts

theorem point_of_backward {sent : Current.Response} {result : Current.BlockResult}
    {point : Point} {legacy : Legacy.Response} {tip : Legacy.BlockPoint} (flat : sent.IsFlat)
    (holds : sent.blockResult = .ok result) (direction : result.direction = Current.backward)
    (there : result.point = some point)
    (carries : legacy.result = some (.block (.rollBackward (Legacy.Point.ofCurrent point) tip))) :
    (response.decode legacy.toJson).toOption.bind Current.Response.point? = sent.point? := by
  have left : sent.point? = some point := by
    have other : Current.backward ≠ Current.forward := by decide
    simp [Current.Response.point?, holds, direction, there, other]
  have kept : (Legacy.Point.ofCurrent point).toCurrent = point := by
    rw [Legacy.Point.to_current_of_current]
    cases point with
    | symbolic name => rfl
    | structural block =>
        have none := flat result block holds direction there
        simp [Point.withoutHeight, ← none]
  rw [point_of_legacy_block carries (Legacy.Result.of_json_backward _ tip) rfl, left]
  exact congrArg some kept

/-- A response that was read names the same point once it is told in the legacy schema. -/
theorem point_of_encoded {sent : Current.Response} {document : Json}
    (readable : sent.IsReadable) (flat : sent.IsFlat)
    (encodes : encodeResponse sent = .ok document) :
    (response.decode document).toOption.bind Current.Response.point? = sent.point? := by
  obtain ⟨legacy, converts, rfl⟩ := map_eq_ok.mp encodes
  obtain ⟨outcome, written, same⟩ := bind_eq_ok.mp converts
  cases same
  rcases Legacy.Response.result_of_current_cases written with
    ⟨pointless, other⟩ | ⟨result, legacy, holds, found, rfl⟩
  · rw [pointless]
    exact no_point_of_legacy other
  · unfold Legacy.BlockResult.ofCurrent? at found
    split at found
    · next direction =>
        split at found
        · cases found
        · next block there =>
            obtain ⟨inner, conversion, same⟩ := bind_eq_ok.mp found
            cases same
            exact point_of_forward readable holds direction there conversion rfl
    · split at found
      · next direction =>
          split at found
          · cases found
          · next point there =>
              cases found
              exact point_of_backward flat holds direction there rfl
      · cases found

end Adaptive

end NodeBridge
