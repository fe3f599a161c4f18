import NodeBridge.Proofs.Adaptive.Retelling

/-!
How a response that was read is written. An answer that the legacy schema has a variant for is
written as it is written alone, and fails as it fails alone; any other answer is left out of the
response. The one response that cannot be asked for its answer is an error in place of the next
block.
-/

namespace NodeBridge

namespace Current

/-- Why a step along the chain cannot be written in the legacy schema. -/
inductive BlockResult.Unwritable (result : BlockResult) : ConversionError → Prop
  | withoutBlock (direction : result.direction = forward) (missing : result.block = none) :
      Unwritable result (.decode .forwardWithoutBlock)
  | withoutPoint (direction : result.direction = backward) (missing : result.point = none) :
      Unwritable result (.decode .backwardWithoutPoint)
  | unknownEra (block : Block) (direction : result.direction = forward)
      (holds : result.block = some block) (unknown : Legacy.Era.ofName? block.era = none) :
      Unwritable result (.unsupportedEra block.era)

/-- Whether the legacy schema has a variant for a result. -/
def Result.hasVariant : Result → Bool
  | .intersection result => result.intersection.isSome || result.error.isSome
  | .block result => result.direction == forward || result.direction == backward

/-- Whether a response to the request for the next block is an error. -/
def Response.RefusesStep (response : Response) : Prop :=
  response.method = nextBlock ∧ response.error.isSome

end Current

namespace Legacy

theorem BlockResult.of_current_eq_error_iff (result : Current.BlockResult)
    (failure : ConversionError) :
    ofCurrent? result = .error failure ↔ result.Unwritable failure := by
  have apart : Current.backward ≠ Current.forward := by decide
  constructor
  · intro fails
    unfold ofCurrent? at fails
    split at fails
    · next direction =>
        split at fails
        · next missing =>
            cases fails
            exact .withoutBlock direction missing
        · next block holds =>
            cases era : Era.ofName? block.era with
            | some era => simp [EraBlock.ofCurrent, era] at fails
            | none =>
                simp only [EraBlock.ofCurrent, era] at fails
                cases fails
                exact .unknownEra block direction holds era
    · split at fails
      · next direction =>
          split at fails
          · next missing =>
              cases fails
              exact .withoutPoint direction missing
          · cases fails
      · cases fails
  · intro unwritable
    cases unwritable with
    | withoutBlock direction missing => simp [ofCurrent?, direction, missing]
    | withoutPoint direction missing => simp [ofCurrent?, direction, missing, apart]
    | unknownEra block direction holds unknown =>
        simp only [ofCurrent?, direction, holds, EraBlock.ofCurrent, unknown, if_true]
        rfl

/-- A step is left out exactly if its direction is not known. -/
theorem BlockResult.of_current_eq_none_iff (result : Current.BlockResult) :
    ofCurrent? result = .ok none ↔ (Current.Result.block result).hasVariant = false := by
  unfold ofCurrent? Current.Result.hasVariant
  split
  · next ahead =>
      refine iff_of_false ?_ (by simp [ahead])
      split
      · simp
      · next block there =>
          intro same
          obtain ⟨inner, -, other⟩ := bind_eq_ok.mp same
          cases other
  · next ahead =>
      split
      · next back =>
          refine iff_of_false ?_ (by simp [back])
          split <;> simp
      · next back => exact iff_of_true rfl (by simp [ahead, back])

theorem IntersectionResult.of_current_eq_none_iff (result : Current.IntersectionResult) :
    ofCurrent? result = none ↔ (Current.Result.intersection result).hasVariant = false := by
  obtain ⟨intersection, tip, error, id⟩ := result
  cases intersection <;> cases error <;> simp [ofCurrent?, Current.Result.hasVariant]

namespace Response

variable {response : Current.Response}

theorem result_of_intersection {result : Current.IntersectionResult}
    (method : response.method = Current.findIntersection)
    (holds : response.result = some (.intersection result)) :
    resultOfCurrent response =
      .ok ((IntersectionResult.ofCurrent? result).map .intersection) := by
  simp [resultOfCurrent, Current.Response.intersectionResult, method, holds]

theorem result_of_step {result : Current.BlockResult}
    (method : response.method = Current.nextBlock)
    (holds : response.result = some (.block result)) :
    resultOfCurrent response = (BlockResult.ofCurrent? result).map (Option.map .block) := by
  have other : ¬response.method = Current.findIntersection := by
    rw [method]
    decide
  have asked : response.blockResult = .ok result := by
    simp [Current.Response.blockResult, method, holds]
  rw [resultOfCurrent, if_neg other, if_pos method, asked]
  dsimp only
  cases BlockResult.ofCurrent? result <;> rfl

/-- What becomes of an error depends on the method: it is an intersection that was not found,
a misuse in place of the next block, and nothing for any other method. -/
theorem result_of_failure {report : Current.ErrorReport} (holds : response.result = none)
    (error : response.error = some report) :
    resultOfCurrent response =
      if response.method = Current.findIntersection then
        .ok (some (.intersection (.notFound (IntersectionResult.tipOfData report.data))))
      else if response.method = Current.nextBlock then
        .error (.misuse ⟨Current.nextBlock, Current.nextBlock⟩)
      else .ok none := by
  unfold resultOfCurrent
  split
  · next method =>
      simp [Current.Response.intersectionResult, method, holds, error,
        IntersectionResult.ofCurrent?]
  · split
    · next method => simp [Current.Response.blockResult, method, holds]
    · rfl

theorem of_current_eq_map (response : Current.Response) :
    ofCurrent response = (resultOfCurrent response).map fun result =>
      ⟨"response", "1.0", "ogmios", legacyMethod response.method, result, response.id⟩ := by
  unfold ofCurrent
  cases resultOfCurrent response <;> rfl

end Response

theorem Result.is_bare_to_json (result : Result) : result.toJson.isBare = false := by
  cases result with
  | intersection result => cases result <;> rfl
  | block result => cases result <;> rfl

end Legacy

namespace Adaptive

/-- The result in the document of a response. -/
def enclosed : Json → Json
  | .object fields => Json.get fields "result"
  | _ => .null

theorem enclosed_to_json (written : Legacy.Response) :
    enclosed written.toJson = Json.ofOption Legacy.Result.toJson written.result := by
  have found : enclosed written.toJson =
      (Json.ofOption Legacy.Result.toJson written.result).settle := by
    simp [enclosed, Legacy.Response.toJson, Json.get_compact, Json.get_cons]
  rw [found]
  cases written.result with
  | none => rfl
  | some result => exact Json.settle_of_not_bare result.is_bare_to_json

/-- The result that a response is written with. -/
theorem enclosed_encode_response (sent : Current.Response) :
    (encodeResponse sent).map enclosed =
      (Legacy.Response.resultOfCurrent sent).map (Json.ofOption Legacy.Result.toJson) := by
  unfold encodeResponse
  rw [Legacy.Response.of_current_eq_map]
  cases Legacy.Response.resultOfCurrent sent with
  | error failure => rfl
  | ok result => exact congrArg Except.ok (enclosed_to_json _)

theorem encode_response_eq_error_iff {sent : Current.Response} (failure : ConversionError) :
    encodeResponse sent = .error failure ↔
      Legacy.Response.resultOfCurrent sent = .error failure := by
  rw [encodeResponse, map_eq_error, Legacy.Response.of_current_eq_map, map_eq_error]

/-- A response and its result are written alike: neither of them can be, or the one holds the
other. -/
def EncodesAlike (sent : Current.Response) (result : Current.Result) : Prop :=
  (∃ failure other, encodeResponse sent = .error failure ∧ encodeResult result = .error other) ∨
    ∃ document, encodeResult result = .ok document ∧
      (encodeResponse sent).map enclosed = .ok document

/-- The result in a response is written as it is written alone if the legacy schema has a variant
for it, and left out otherwise. -/
theorem enclosed_result {sent : Current.Response} {result : Current.Result}
    (outcome : sent.HoldsOutcome) (holds : sent.result = some result) :
    (encodeResponse sent).map enclosed =
      if result.hasVariant then encodeResult result else .ok .null := by
  rw [enclosed_encode_response]
  cases outcome with
  | failure report none error =>
      rw [none] at holds
      cases holds
  | intersection found method there error =>
      rw [there] at holds
      cases holds
      rw [Legacy.Response.result_of_intersection method there]
      cases variant : Legacy.IntersectionResult.ofCurrent? found with
      | none =>
          rw [(Legacy.IntersectionResult.of_current_eq_none_iff found).mp variant]
          rfl
      | some legacy =>
          have known : (Current.Result.intersection found).hasVariant = true := by
            rw [← Bool.not_eq_false, ← Legacy.IntersectionResult.of_current_eq_none_iff, variant]
            simp
          rw [known, if_pos rfl]
          simp only [encodeResult, encodeIntersectionResult, variant]
          rfl
  | step found method there error =>
      rw [there] at holds
      cases holds
      rw [Legacy.Response.result_of_step method there]
      have known (other : Legacy.BlockResult.ofCurrent? found ≠ .ok none) :
          (Current.Result.block found).hasVariant = true := by
        rw [← Bool.not_eq_false, ← Legacy.BlockResult.of_current_eq_none_iff]
        exact other
      cases written : Legacy.BlockResult.ofCurrent? found with
      | error failure =>
          rw [known (by rw [written]; simp), if_pos rfl]
          simp only [encodeResult, encodeBlockResult, written]
          rfl
      | ok variant =>
          cases variant with
          | none =>
              rw [(Legacy.BlockResult.of_current_eq_none_iff found).mp written]
              rfl
          | some legacy =>
              rw [known (by rw [written]; simp), if_pos rfl]
              simp only [encodeResult, encodeBlockResult, written]
              rfl

/-- A result without a variant is written alone as an intersection that was not found, or not at
all, so it is never written alike. -/
theorem not_alike_of_no_variant {sent : Current.Response} {result : Current.Result}
    (outcome : sent.HoldsOutcome) (holds : sent.result = some result)
    (none : result.hasVariant = false) : ¬EncodesAlike sent result := by
  have left := enclosed_result outcome holds
  rw [none, if_neg Bool.false_ne_true] at left
  rintro (⟨failure, other, fails, -⟩ | ⟨document, alone, within⟩)
  · rw [fails] at left
    cases left
  · rw [left] at within
    cases within
    cases result with
    | intersection found =>
        rw [← Legacy.IntersectionResult.of_current_eq_none_iff] at none
        simp only [encodeResult, encodeIntersectionResult, none] at alone
        cases alone
    | block found =>
        rw [← Legacy.BlockResult.of_current_eq_none_iff] at none
        simp only [encodeResult, encodeBlockResult, none] at alone
        cases alone

theorem alike_of_enclosed {sent : Current.Response} {result : Current.Result}
    (same : (encodeResponse sent).map enclosed = encodeResult result) :
    EncodesAlike sent result := by
  cases alone : encodeResult result with
  | error failure =>
      rw [alone, map_eq_error] at same
      exact .inl ⟨failure, failure, same, alone⟩
  | ok document =>
      rw [alone] at same
      exact .inr ⟨document, alone, same⟩

/-- A response that was read and its result are written alike exactly if the legacy schema has a
variant for the result. Any other result is left out of the response. -/
theorem encodes_alike_iff {json : Json} {sent : Current.Response} {result : Current.Result}
    (decodes : response.decode json = .ok sent) (holds : sent.result = some result) :
    (EncodesAlike sent result ↔ result.hasVariant = true) ∧
      (encodeResponse sent).map enclosed =
        if result.hasVariant then encodeResult result else .ok .null := by
  have outcome := outcome_of_decode decodes
  have enclosing := enclosed_result outcome holds
  refine ⟨⟨?_, ?_⟩, enclosing⟩
  · intro alike
    by_contra other
    rw [Bool.not_eq_true] at other
    exact not_alike_of_no_variant outcome holds other alike
  · intro variant
    rw [variant, if_pos rfl] at enclosing
    exact alike_of_enclosed enclosing

/-- A step back to the origin. -/
def steppedBack : Json := .object [("jsonrpc", .text "2.0"),
  ("method", .text Current.nextBlock),
  ("result", .object [("direction", .text Current.backward), ("point", .text "origin")])]

theorem encodes_alike_of_stepped_back :
    ∃ sent result, response.decode steppedBack = .ok sent ∧ sent.result = some result ∧
      EncodesAlike sent result := by
  let step : Current.Result :=
    .block ⟨Current.backward, none, none, some (.symbolic "origin")⟩
  let sent : Current.Response := ⟨"2.0", Current.nextBlock, some step, none, .null⟩
  have decodes : response.decode steppedBack = .ok sent := rfl
  exact ⟨sent, step, decodes, rfl, (encodes_alike_iff decodes rfl).1.mpr rfl⟩

/-- The answer to the search for an intersection, with a tip and nothing else. -/
def tipAlone : Json := .object [("jsonrpc", .text "2.0"),
  ("method", .text Current.findIntersection),
  ("result", .object [("tip", .object [("slot", .int 5), ("id", .text "ab")])])]

/-- It is written alone as an intersection that was not found, and left out of its response. -/
theorem tip_left_out :
    ∃ sent result, response.decode tipAlone = .ok sent ∧ sent.result = some result ∧
      (∃ document, encodeResult result = .ok document ∧ document ≠ .null) ∧
      (encodeResponse sent).map enclosed = .ok .null ∧ ¬EncodesAlike sent result := by
  let answer : Current.Result := .intersection ⟨none, some ⟨"ab", 5, none⟩, none, .null⟩
  let sent : Current.Response := ⟨"2.0", Current.findIntersection, some answer, none, .null⟩
  have within : (encodeResponse sent).map enclosed = .ok .null := rfl
  have alone : encodeResult answer = .ok (.object [("IntersectionNotFound",
    .object [("tip", .object [("hash", .text "ab"), ("slot", .int 5)])])]) := rfl
  refine ⟨sent, answer, rfl, rfl, ⟨_, alone, nofun⟩, within, ?_⟩
  rintro (⟨failure, other, fails, -⟩ | ⟨document, written, found⟩)
  · cases fails
  · rw [alone] at written
    cases written
    rw [within] at found
    cases found

/-- The result of a response cannot be written if its step cannot, or if an error stands in the
place of the step. -/
theorem result_of_outcome_eq_error_iff {sent : Current.Response} (outcome : sent.HoldsOutcome)
    (failure : ConversionError) :
    Legacy.Response.resultOfCurrent sent = .error failure ↔
      (sent.RefusesStep ∧ failure = .misuse ⟨Current.nextBlock, Current.nextBlock⟩) ∨
        ∃ step, sent.result = some (.block step) ∧ step.Unwritable failure := by
  have apart : Current.findIntersection ≠ Current.nextBlock := by decide
  cases outcome with
  | intersection found method holds error =>
      rw [Legacy.Response.result_of_intersection method holds]
      simp [Current.Response.RefusesStep, holds, error]
  | step found method holds error =>
      rw [Legacy.Response.result_of_step method holds, map_eq_error,
        Legacy.BlockResult.of_current_eq_error_iff]
      simp [Current.Response.RefusesStep, holds, error]
  | failure report holds error =>
      rw [Legacy.Response.result_of_failure holds error]
      have noStep : ¬∃ step, sent.result = some (.block step) ∧ step.Unwritable failure := by
        simp [holds]
      rw [or_iff_left noStep]
      by_cases search : sent.method = Current.findIntersection
      · simp [Current.Response.RefusesStep, search, apart]
      · by_cases next : sent.method = Current.nextBlock
        · rw [if_neg search, if_pos next, Except.error.injEq]
          have refuses : sent.RefusesStep := ⟨next, by rw [error]; rfl⟩
          rw [and_iff_right refuses, eq_comm]
        · simp [Current.Response.RefusesStep, search, next]

/-- Whether a document answers the request for the next block, by either of its names, with an
error. -/
def refusesStep : Json → Bool
  | .object fields =>
      match Json.get fields "method" with
      | .text name => Current.knownMethod? name == some Current.nextBlock &&
          !(Json.get fields "error").isNull
      | _ => false
  | _ => false

/-- A missing method is read as an empty name, which is not known. -/
theorem refuses_step_of_fields {json : Json} {fields : Fields} {name : String}
    (object : Decode.object "response" json = .ok fields)
    (text : Decode.text "response.method" (Json.get fields "method") = .ok name) :
    refusesStep json = (Current.knownMethod? name == some Current.nextBlock &&
      !(Json.get fields "error").isNull) := by
  cases json with
  | object inner =>
      cases object
      cases method : Json.get fields "method" with
      | text other =>
          rw [method] at text
          cases text
          simp only [refusesStep, method]
      | null =>
          rw [method] at text
          cases text
          simp only [refusesStep, method]
          rfl
      | _ =>
          rw [method] at text
          cases text
  | null =>
      cases object
      cases text
      rfl
  | _ => cases object

/-- A document of the current schema refuses a step exactly if its response does. -/
theorem refuses_step_of_json {json : Json} {sent : Current.Response}
    (reads : Current.Response.ofJson json = .ok sent) :
    sent.RefusesStep ↔ refusesStep json = true := by
  obtain ⟨fields, name, object, text, outcome⟩ := Current.Response.of_json_cases reads
  rw [refuses_step_of_fields object text, Bool.and_eq_true, beq_iff_eq]
  obtain ⟨report, -, there, method, holds, error⟩ |
    ⟨method, result, null, known, -, same, holds, error⟩ := outcome
  · have full : (!(Json.get fields "error").isNull) = true := by
      rw [Json.is_null_of_ne_null there]
      rfl
    rw [and_iff_left full, Current.Response.RefusesStep, method, error,
      and_iff_left (Option.isSome_some)]
    cases known : Current.knownMethod? name with
    | some found => simp
    | none =>
        -- The name of the request itself is one that is known.
        refine iff_of_false ?_ (by simp)
        rintro rfl
        cases known
  · refine iff_of_false ?_ ?_
    · simp [Current.Response.RefusesStep, error]
    · simp [null]

/-- Writing a response that was read fails over a step that has no legacy form, and over an
error in place of the next block, which is taken for a misuse. Such an error stands in the
document itself, which is one of the current schema. -/
theorem encode_response_fails_iff {json : Json} {sent : Current.Response}
    (decodes : response.decode json = .ok sent) :
    (∀ failure, encodeResponse sent = .error failure ↔
      (sent.RefusesStep ∧ failure = .misuse ⟨Current.nextBlock, Current.nextBlock⟩) ∨
        ∃ step, sent.result = some (.block step) ∧ step.Unwritable failure) ∧
      (sent.RefusesStep ↔
        Current.Response.ofJson json = .ok sent ∧ refusesStep json = true) := by
  refine ⟨fun failure => ?_, fun refuses => ?_, ?_⟩
  · rw [encode_response_eq_error_iff]
    exact result_of_outcome_eq_error_iff (outcome_of_decode decodes) failure
  · rcases Reading.decode_cases decodes with current | ⟨legacy, reads, converts⟩
    · exact ⟨current, (refuses_step_of_json current).mp refuses⟩
    · have none := (Legacy.Response.to_current_cases reads converts).2 refuses.1
      have error := refuses.2
      rw [none] at error
      cases error
  · rintro ⟨current, refuses⟩
    exact (refuses_step_of_json current).mpr refuses

/-- A step forward without a block. -/
def blockless : Json := .object [("jsonrpc", .text "2.0"),
  ("method", .text Current.nextBlock),
  ("result", .object [("direction", .text Current.forward)])]

theorem encode_response_fails_of_blockless :
    ∃ sent, response.decode blockless = .ok sent ∧ ¬sent.RefusesStep ∧
      encodeResponse sent = .error (.decode .forwardWithoutBlock) := by
  let step : Current.BlockResult := ⟨Current.forward, none, none, none⟩
  let sent : Current.Response := ⟨"2.0", Current.nextBlock, some (.block step), none, .null⟩
  have decodes : response.decode blockless = .ok sent := rfl
  obtain ⟨fails, refuses⟩ := encode_response_fails_iff decodes
  refine ⟨sent, decodes, ?_, ?_⟩
  · intro refused
    have there : refusesStep blockless = true := (refuses.mp refused).2
    cases there
  · exact (fails _).mpr (.inr ⟨step, rfl, .withoutBlock rfl rfl⟩)

/-- A node that is busy when it is asked for the next block. -/
def busy : Json := .object [("jsonrpc", .text "2.0"), ("method", .text Current.nextBlock),
  ("error", .object [("code", .int 1), ("message", .text "busy")])]

/-- Its answer is read, and writing it is a misuse. -/
theorem busy_taken_for_misuse :
    ∃ sent, response.decode busy = .ok sent ∧
      encodeResponse sent = .error (.misuse ⟨Current.nextBlock, Current.nextBlock⟩) :=
  ⟨⟨"2.0", Current.nextBlock, none, some ⟨1, "busy", .null, .null⟩, .null⟩, rfl, rfl⟩

end Adaptive

end NodeBridge
