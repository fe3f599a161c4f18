import NodeBridge.Proofs.Current.Printed
import NodeBridge.Proofs.NormalForm.Block

/-!
Responses and their results in their normal forms, in either schema. A response settles unless its
method is unknown and its error says nothing: the error is dropped then, and without one the method
has to be known.
-/

namespace NodeBridge

open Json Decode

theorem Point.of_json_to_json (point : Point) : ofJson point.toJson = .ok point := by
  cases point with
  | symbolic name => rfl
  | structural block =>
      have reads : ofJson block.toJson = (BlockPoint.ofJson block.toJson).map structural := rfl
      unfold toJson
      rw [reads, BlockPoint.of_json_to_json]
      rfl

namespace Current

theorem ErrorReport.to_json_settle (report : ErrorReport) :
    report.settle.toJson = report.toJson := by
  apply congrArg Json.object
  apply compact_congr
  simp [heeded, settle]

namespace IntersectionResult

/-- A result as it comes back after it was printed. -/
def settle (result : IntersectionResult) : IntersectionResult where
  intersection := retained Point.toJson result.intersection
  tip := retained BlockPoint.toJson result.tip
  error := (retained ErrorReport.toJson result.error).map ErrorReport.settle
  id := result.id.settle

theorem of_json_settle (result : IntersectionResult) :
    ofJson result.toJson.settle = .ok result.settle := by
  have error : optional ErrorReport.ofJson (ofOption ErrorReport.toJson result.error).settle =
      .ok ((retained ErrorReport.toJson result.error).map ErrorReport.settle) :=
    optional_retained fun report _ => report.of_json_to_json
  simp [ofJson, toJson, get_compact, get_cons, settle, error,
    optional_retained_same Point.of_json_to_json,
    optional_retained_same BlockPoint.of_json_to_json]

theorem to_json_settle (result : IntersectionResult) : result.settle.toJson = result.toJson := by
  have error := of_option_map ErrorReport.to_json_settle
    (retained ErrorReport.toJson result.error)
  apply congrArg Json.object
  apply compact_congr
  simp [heeded, settle, error, settle_of_option_retained]

theorem is_normalizing : IsNormalizing ofJson toJson := by
  intro json result reads
  have again : ofJson result.toJson = .ok result.settle := by
    rw [← result.of_json_settle]
    unfold ofJson toJson
    rw [object_settle, object_object]
  exact settles_of_again again result.to_json_settle

end IntersectionResult

namespace BlockResult

def settle (result : BlockResult) : BlockResult where
  direction := result.direction
  tip := retained BlockPoint.toJson result.tip
  block := (retained Block.toJson result.block).map Block.settle
  point := retained Point.toJson result.point

theorem of_json_settle {result : BlockResult} (readable : ∀ block, result.block = some block →
      ∀ transaction ∈ block.transactions, transaction.datums.Readable) :
    ofJson result.toJson.settle = .ok result.settle := by
  have block : optional Block.ofJson (ofOption Block.toJson result.block).settle =
      .ok ((retained Block.toJson result.block).map Block.settle) :=
    optional_retained fun block holds => Block.of_json_to_json (readable block holds)
  simp [ofJson, toJson, get_compact, get_cons, settle, block,
    optional_retained_same Point.of_json_to_json,
    optional_retained_same BlockPoint.of_json_to_json]

theorem to_json_settle (result : BlockResult) : result.settle.toJson = result.toJson := by
  have block := of_option_map Block.to_json_settle (retained Block.toJson result.block)
  apply congrArg Json.object
  apply compact_congr
  simp [heeded, settle, block, settle_of_option_retained]

theorem is_normalizing : IsNormalizing ofJson toJson := by
  intro json result reads
  have again : ofJson result.toJson = .ok result.settle := by
    rw [← of_json_settle fun _ holds => readable_of_json reads holds]
    unfold ofJson toJson
    rw [object_settle, object_object]
  exact settles_of_again again result.to_json_settle

end BlockResult

/-- A result that was read is found again by the same method. -/
theorem Response.read_result_settle {method : String} {json : Json} {result : Result}
    (reads : readResult method json = .ok result) :
    ∃ again, readResult method result.toJson.settle = .ok again ∧
      again.toJson = result.toJson := by
  unfold readResult at reads ⊢
  split at reads
  · next search =>
      obtain ⟨found, -, rfl⟩ := map_eq_ok.mp reads
      refine ⟨.intersection found.settle, ?_, found.to_json_settle⟩
      rw [if_pos search]
      show (IntersectionResult.ofJson found.toJson.settle).map _ = _
      rw [found.of_json_settle]
      rfl
  · next step =>
      obtain ⟨found, read, rfl⟩ := map_eq_ok.mp reads
      refine ⟨.block found.settle, ?_, found.to_json_settle⟩
      rw [if_neg step]
      show (BlockResult.ofJson found.toJson.settle).map _ = _
      rw [BlockResult.of_json_settle fun _ holds => BlockResult.readable_of_json read holds]
      rfl

/-- The current name of a method is known. -/
theorem known_method_again {name method : String} (known : knownMethod? name = some method) :
    knownMethod? method = some method := by
  rcases known_method_cases known with rfl | rfl <;> decide

theorem known_method_canonical (name : String) :
    (knownMethod? ((knownMethod? name).getD name)).getD ((knownMethod? name).getD name) =
      (knownMethod? name).getD name := by
  cases known : knownMethod? name with
  | none => rw [Option.getD_none, known, Option.getD_none]
  | some method => rw [Option.getD_some, known_method_again known, Option.getD_some]

/-- Where nothing was sent an empty result is read, of which nothing is printed. -/
theorem Response.read_result_null {name method : String} (known : knownMethod? name = some method) :
    ∃ result, readResult method .null = .ok result ∧ result.toJson.settle = .null := by
  rcases known_method_cases known with rfl | rfl
  · exact ⟨.intersection ⟨none, none, none, .null⟩, rfl, rfl⟩
  · exact ⟨.block ⟨"", none, none, none⟩, rfl, rfl⟩

namespace ErrorReport

/-- An error without a code, a message, data and an identifier. -/
structure IsMute (report : ErrorReport) : Prop where
  code : report.code = 0
  message : report.message = ""
  data : report.data.isBare = true
  id : report.id.isBare = true

theorem is_bare_to_json_iff (report : ErrorReport) :
    report.toJson.isBare = true ↔ report.IsMute := by
  have bare : report.toJson.isBare = true ↔ report.code = 0 ∧ report.message = "" ∧
      report.data.isBare = true ∧ report.id.isBare = true := by
    simp [toJson, isBare, compact]
  rw [bare]
  constructor
  · rintro ⟨code, message, data, id⟩
    exact ⟨code, message, data, id⟩
  · rintro ⟨code, message, data, id⟩
    exact ⟨code, message, data, id⟩

end ErrorReport

namespace Response

/-- A response to an unknown method whose error says nothing. -/
def IsSilent (response : Response) : Prop :=
  ∃ report, response.error = some report ∧ report.IsMute ∧ knownMethod? response.method = none

theorem to_json_congr {left right : Response} (jsonrpc : left.jsonrpc = right.jsonrpc)
    (method : left.method = right.method)
    (result : (ofOption Result.toJson left.result).settle =
      (ofOption Result.toJson right.result).settle)
    (error : (ofOption ErrorReport.toJson left.error).settle =
      (ofOption ErrorReport.toJson right.error).settle)
    (id : left.id.settle = right.id.settle) : left.toJson = right.toJson := by
  apply congrArg Json.object
  apply compact_congr
  simp [heeded, jsonrpc, method, result, error, id]

/-- A printed response whose error says nothing is read as one that has no error. -/
theorem of_json_to_json_of_no_error {response : Response}
    (error : (ofOption ErrorReport.toJson response.error).settle = .null) :
    ofJson response.toJson =
      match knownMethod? response.method with
      | none => .error (.unknownMethod response.method)
      | some method =>
          (readResult method (ofOption Result.toJson response.result).settle).map fun result =>
            ⟨response.jsonrpc, method, some result, none, response.id.settle⟩ := by
  have absent : optional ErrorReport.ofJson Json.null = .ok none := rfl
  cases known : knownMethod? response.method with
  | none => simp [ofJson, toJson, get_compact, get_cons, error, absent, known]
  | some method =>
      cases read : readResult method (ofOption Result.toJson response.result).settle <;>
        simp [ofJson, toJson, get_compact, get_cons, error, absent, known, read, bind,
          Except.bind, Except.map]

theorem settles_of_no_error {response : Response} {result : Result}
    (error : (ofOption ErrorReport.toJson response.error).settle = .null)
    (known : knownMethod? response.method = some response.method)
    (reads : readResult response.method (ofOption Result.toJson response.result).settle =
      .ok result)
    (same : result.toJson.settle = (ofOption Result.toJson response.result).settle) :
    Settles ofJson toJson response := by
  have again := of_json_to_json_of_no_error error
  simp only [known, reads, Except.map] at again
  apply settles_of_again again
  exact to_json_congr rfl rfl same error.symm (settle_settle response.id)

theorem settles_of_error {response : Response} {report : ErrorReport}
    (holds : response.result = none) (error : response.error = some report)
    (canonical : (knownMethod? response.method).getD response.method = response.method)
    (full : report.toJson.isBare = false) : Settles ofJson toJson response := by
  apply settles_of_again (of_json_to_json_of_error holds error full)
  refine to_json_congr rfl canonical rfl ?_ (settle_settle response.id)
  rw [error, of_option_some, of_option_some, report.to_json_settle]

/-- Without its error, which is dropped, the response is read if its method is known. -/
theorem settles_iff_of_mute {response : Response} {report : ErrorReport}
    (holds : response.result = none) (error : response.error = some report)
    (canonical : (knownMethod? response.method).getD response.method = response.method)
    (bare : report.toJson.isBare = true) :
    Settles ofJson toJson response ↔ knownMethod? response.method ≠ none := by
  have dropped : (ofOption ErrorReport.toJson response.error).settle = .null := by
    rw [error, of_option_some, settle_of_bare bare]
  cases known : knownMethod? response.method with
  | none =>
      refine iff_of_false ?_ (not_not.mpr rfl)
      intro settles
      obtain ⟨again, reads, -⟩ := again_of_settles settles
      rw [of_json_to_json_of_no_error dropped, known] at reads
      cases reads
  | some current =>
      rw [known] at canonical
      obtain rfl : current = response.method := canonical
      obtain ⟨result, reads, same⟩ := read_result_null known
      have nothing : (ofOption Result.toJson response.result).settle = .null := by
        rw [holds]
        rfl
      rw [← nothing] at reads same
      exact iff_of_true (settles_of_no_error dropped known reads same) (by simp)

/-- A response that was read settles unless it is silent. -/
theorem settles_iff {json : Json} {response : Response} (reads : ofJson json = .ok response) :
    Settles ofJson toJson response ↔ ¬response.IsSilent := by
  obtain ⟨fields, name, -, -, ⟨report, -, -, method, holds, error⟩ |
    ⟨method, result, -, known, read, rfl, holds, error⟩⟩ := of_json_cases reads
  · have canonical : (knownMethod? response.method).getD response.method = response.method := by
      rw [method, known_method_canonical]
    cases bare : report.toJson.isBare with
    | false =>
        refine iff_of_true (settles_of_error holds error canonical bare) ?_
        rintro ⟨other, same, mute, -⟩
        rw [error, Option.some.injEq] at same
        subst same
        rw [report.is_bare_to_json_iff.mpr mute] at bare
        cases bare
    | true =>
        rw [settles_iff_of_mute holds error canonical bare, not_iff_not]
        constructor
        · intro unknown
          exact ⟨report, error, report.is_bare_to_json_iff.mp bare, unknown⟩
        · rintro ⟨other, -, -, unknown⟩
          exact unknown
  · obtain ⟨again, reads, same⟩ := read_result_settle read
    have loud : ¬response.IsSilent := by
      rintro ⟨other, same, -⟩
      rw [error] at same
      cases same
    have dropped : (ofOption ErrorReport.toJson response.error).settle = .null := by
      rw [error]
      rfl
    have printed : (ofOption Result.toJson response.result).settle = result.toJson.settle := by
      rw [holds, of_option_some]
    rw [← printed] at reads
    refine iff_of_true ?_ loud
    apply settles_of_no_error dropped (known_method_again known) reads
    rw [printed, same]

end Response

end Current

namespace Legacy

theorem variant_field_compact {fields : Fields} {name capital : String}
    (distinct : (fields.map Prod.fst).Nodup) (absent : capital ∉ fields.map Prod.fst) :
    variantField (compact [] fields) name capital = (get fields name).settle := by
  have found (key : String) : get (compact [] fields) key = (get fields key).settle := by
    rw [get_compact [] distinct, if_neg List.not_mem_nil]
  unfold variantField
  split
  · exact found name
  · next dropped =>
      rw [has_iff_mem] at dropped
      rw [found, get_of_not_mem absent, ← found name, get_of_not_mem dropped, settle_null]

namespace IntersectionResult

def settle : IntersectionResult → IntersectionResult
  | .found point tip => .found (retained Point.toJson point) (retained BlockPoint.toJson tip)
  | .notFound tip => .notFound (retained BlockPoint.toJson tip)

theorem of_json_to_json (result : IntersectionResult) :
    Result.ofJson result.toJson = .ok (.intersection result.settle) := by
  have found : foundName ∈ variantNames := by decide
  have notFound : notFoundName ∈ variantNames := by decide
  have other : notFoundName ≠ foundName := by decide
  have points (point : Option Point) : optional Point.ofJson (ofOption Point.toJson point).settle =
      .ok (retained Point.toJson point) :=
    optional_retained_same Point.of_json_to_json
  have tips (tip : Option BlockPoint) : optionalTip (ofOption BlockPoint.toJson tip).settle =
      .ok (retained BlockPoint.toJson tip) :=
    optional_retained_same BlockPoint.of_json_to_json
  cases result with
  | found point tip =>
      unfold toJson
      rw [Result.of_json_variant rfl (by decide)]
      simp [Result.readVariant, found, readVariant, variant_field_compact, get_cons, points, tips,
        settle, Except.map]
  | notFound tip =>
      unfold toJson
      rw [Result.of_json_variant rfl (by decide)]
      simp [Result.readVariant, notFound, other, readVariant, variant_field_compact, get_cons, tips,
        settle, Except.map]

theorem to_json_settle (result : IntersectionResult) : result.settle.toJson = result.toJson := by
  cases result with
  | found point tip =>
      refine congrArg (fun fields => Json.object [(foundName, .object fields)]) ?_
      apply compact_congr
      simp [heeded, settle_of_option_retained]
  | notFound tip =>
      refine congrArg (fun fields => Json.object [(notFoundName, .object fields)]) ?_
      apply compact_congr
      simp [heeded, settle_of_option_retained]

end IntersectionResult

/-- A result that was read is found again. -/
theorem Result.again_of_json {json : Json} {result : Result} (reads : ofJson json = .ok result) :
    ∃ again, ofJson result.toJson = .ok again ∧ again.toJson = result.toJson := by
  cases result with
  | intersection result =>
      exact ⟨.intersection result.settle, result.of_json_to_json, result.to_json_settle⟩
  | block result =>
      cases result with
      | rollForward block tip =>
          obtain ⟨name, inner, variant⟩ := read_variant_of_block reads
          obtain ⟨document, read⟩ := BlockResult.block_of_json variant
          refine ⟨.block (.rollForward block.settle tip),
            of_json_forward_of_again tip (EraBlock.again_of_json read), ?_⟩
          simp only [toJson, BlockResult.toJson, block.to_json_settle]
      | rollBackward point tip =>
          exact ⟨.block (.rollBackward point tip), of_json_backward point tip, rfl⟩

theorem Response.is_normalizing : IsNormalizing ofJson toJson := by
  intro json response reads
  obtain ⟨inner, result, holds, read⟩ := read_result reads
  obtain ⟨again, found, same⟩ := Result.again_of_json read
  have returned := of_json_to_json_of_result holds
  rw [found] at returned
  apply settles_of_again returned
  apply congrArg Json.object
  apply compact_congr
  simp [heeded, holds, of_option_some, same]

end Legacy

/-- Whatever is read of either schema is printed in a normal form, except for current responses
to an unknown method with an error that says nothing. -/
theorem printed_documents_settle :
    (IsNormalizing Current.Transaction.ofJson Current.Transaction.toJson ∧
      IsNormalizing Current.Block.ofJson Current.Block.toJson ∧
      IsNormalizing Current.IntersectionResult.ofJson Current.IntersectionResult.toJson ∧
      IsNormalizing Current.BlockResult.ofJson Current.BlockResult.toJson ∧
      ∀ json response, Current.Response.ofJson json = .ok response →
        (Settles Current.Response.ofJson Current.Response.toJson response ↔
          ¬response.IsSilent)) ∧
    IsNormalizing Legacy.Transaction.ofJson Legacy.Transaction.toJson ∧
    IsNormalizing Legacy.Block.ofJson Legacy.Block.toJson ∧
    IsNormalizing Legacy.EraBlock.ofJson Legacy.EraBlock.toJson ∧
    IsNormalizing Legacy.Response.ofJson Legacy.Response.toJson :=
  ⟨⟨Current.Transaction.is_normalizing, Current.Block.is_normalizing,
      Current.IntersectionResult.is_normalizing, Current.BlockResult.is_normalizing,
      fun _ _ reads => Current.Response.settles_iff reads⟩,
    Legacy.Transaction.is_normalizing, Legacy.Block.is_normalizing,
    Legacy.EraBlock.is_normalizing, Legacy.Response.is_normalizing⟩

/-- A transaction with parts that say nothing, a datum in base 64 and a whole number that was
sent as a double. -/
def looseTransaction : Json := .object [
  ("inputs", .list [.object [("transaction", .object [("id", .text "0a")]),
    ("index", .float ⟨0x4014000000000000⟩)]]),
  ("totalCollateral", .object []),
  ("collateralReturn", .object [("script", .object [])]),
  ("network", .text ""),
  ("datums", .object [("0b", .text "AQ==")])]

def tightTransaction : Json := .object [
  ("inputs", .list [.object [("transaction", .object [("id", .text "0a")]), ("index", .int 5)]]),
  ("validityInterval", .object []),
  ("datums", .object [("0b", .text "01")])]

theorem loose_transaction_printed :
    (Current.Transaction.ofJson looseTransaction).map Current.Transaction.toJson =
      .ok tightTransaction := by
  decide +kernel

/-- A response to a method that is not known, with this error. -/
def strayResponse (error : Fields) : Json :=
  .object [("method", .text "queryTip"), ("error", .object error)]

theorem stray_response_read :
    Current.Response.ofJson (strayResponse [("code", .int (-32601))]) =
        .ok ⟨"", "queryTip", none, some ⟨-32601, "", .null, .null⟩, .null⟩ ∧
      Current.Response.ofJson (strayResponse [("data", .list [])]) =
        .ok ⟨"", "queryTip", none, some ⟨0, "", .list [], .null⟩, .null⟩ := by
  decide +kernel

theorem printed_documents_settle_of_samples :
    (∀ rounds, reprint Current.Transaction.ofJson Current.Transaction.toJson rounds
      tightTransaction = .ok tightTransaction) ∧
    (∃ response, Current.Response.ofJson (strayResponse [("code", .int (-32601))]) = .ok response ∧
      Settles Current.Response.ofJson Current.Response.toJson response) ∧
    ∃ response, Current.Response.ofJson (strayResponse [("data", .list [])]) = .ok response ∧
      ¬Settles Current.Response.ofJson Current.Response.toJson response := by
  obtain ⟨transaction, reads, printed⟩ := map_eq_ok.mp loose_transaction_printed
  have settles := printed_documents_settle.1.1 looseTransaction transaction reads
  have loud := printed_documents_settle.1.2.2.2.2 _ _ stray_response_read.1
  have silent := printed_documents_settle.1.2.2.2.2 _ _ stray_response_read.2
  refine ⟨?_, ⟨_, stray_response_read.1, loud.mpr ?_⟩, ⟨_, stray_response_read.2, ?_⟩⟩
  · intro rounds
    rw [← printed]
    exact settles rounds
  · rintro ⟨report, same, mute, -⟩
    cases same
    cases mute.code
  · rw [silent, not_not]
    exact ⟨_, rfl, ⟨rfl, rfl, rfl, rfl⟩, by decide⟩

end NodeBridge
