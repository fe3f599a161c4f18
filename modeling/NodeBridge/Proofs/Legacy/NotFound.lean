import NodeBridge.Proofs.Current.Printed
import NodeBridge.Proofs.Legacy.Response

/-!
Intersections that were not found. The legacy schema has a variant for them with the tip of the
chain in it. In the current schema they are errors, and the tip travels in the data of the error,
where anything may stand. The tip comes back from there, and data that hold none are never a
failure.
-/

namespace NodeBridge

namespace Legacy

open Json

theorem BlockPoint.of_current_to_current (point : BlockPoint) :
    ofCurrent point.toCurrent = point := by
  obtain ⟨blockNo, hash, slot⟩ := point
  by_cases zero : blockNo = 0
  · simp [ofCurrent, toCurrent, zero]
  · simp [ofCurrent, toCurrent, zero]

theorem BlockPoint.to_current_eq_blank_iff (point : BlockPoint) :
    point.toCurrent = ⟨"", 0, none⟩ ↔ point = empty := by
  constructor
  · intro blank
    rw [← point.of_current_to_current, blank]
    rfl
  · rintro rfl
    rfl

/-- The data of an error carry a point as a whole, or under the name of the tip. -/
inductive CarriesTip (point : NodeBridge.BlockPoint) : Json → Prop
  | flat : CarriesTip point point.toJson
  | nested {fields : Fields} (tip : get fields "tip" = point.toJson) :
      CarriesTip point (.object fields)

namespace IntersectionResult

theorem tip_of_printed {fields : Fields} {point : NodeBridge.BlockPoint}
    (inner : tipFields fields = point.fields) (filled : point ≠ ⟨"", 0, none⟩) :
    tipOfData (.object fields) = some (BlockPoint.ofCurrent point) := by
  have absent {name : String} (other : name ∉ ["height", "id", "slot"]) :
      has point.fields name = false := by
    rw [← Bool.not_eq_true, has_iff_mem]
    intro member
    apply other
    exact NodeBridge.BlockPoint.names_of_fields member
  have legacy : (has point.fields "hash" || has point.fields "blockNo") = false := by
    rw [absent (by decide), absent (by decide)]
    rfl
  have current : (has point.fields "id" || has point.fields "slot" ||
      has point.fields "height") = true := by
    obtain ⟨field, member⟩ := List.exists_mem_of_ne_nil point.fields fun none =>
      filled (point.fields_eq_nil_iff.mp none)
    have named := List.mem_map_of_mem (f := Prod.fst) member
    have known := NodeBridge.BlockPoint.names_of_fields named
    rw [← has_iff_mem] at named
    simp only [List.mem_cons, List.not_mem_nil, or_false] at known
    rcases known with height | id | slot
    · rw [height] at named
      simp [named]
    · rw [id] at named
      simp [named]
    · rw [slot] at named
      simp [named]
  have reads : NodeBridge.BlockPoint.ofJson (.object point.fields) = .ok point :=
    point.of_json_to_json
  simp only [tipOfData, inner, legacy, current, reads, Bool.false_eq_true, if_false, if_true]
  rfl

/-- Data that carry a point give it back. -/
theorem tip_of_carried {point : NodeBridge.BlockPoint} {data : Json}
    (carries : CarriesTip point data) (filled : point ≠ ⟨"", 0, none⟩) :
    tipOfData data = some (BlockPoint.ofCurrent point) := by
  cases carries with
  | flat =>
      apply tip_of_printed _ filled
      have none : get point.fields "tip" = .null := by
        apply get_of_not_mem
        intro member
        simpa using NodeBridge.BlockPoint.names_of_fields member
      unfold tipFields
      rw [none]
  | nested tip =>
      apply tip_of_printed _ filled
      unfold tipFields
      rw [tip]
      rfl

/-- The tip in the data of an error that was printed and read back. An empty one is gone, and is
not printed in the legacy schema either. -/
theorem tip_of_printed_error (message : String) (tip : Option BlockPoint) :
    tipOfData (notFoundError message tip).settle.data = tip.filter (· ≠ BlockPoint.empty) := by
  unfold notFoundError Current.ErrorReport.settle
  cases tip with
  | none => rfl
  | some point =>
      by_cases empty : point = BlockPoint.empty
      · subst empty
        rfl
      · have filled : point.toCurrent ≠ ⟨"", 0, none⟩ := by
          rw [Ne, point.to_current_eq_blank_iff]
          exact empty
        have full : point.toCurrent.toJson.isBare = false := by
          rw [← Bool.not_eq_true]
          intro bare
          apply filled
          rw [← NodeBridge.BlockPoint.fields_eq_nil_iff, ← List.isEmpty_iff]
          exact bare
        have data : (ofOption NodeBridge.BlockPoint.toJson
            ((some point).map BlockPoint.toCurrent)).settle = point.toCurrent.toJson :=
          settle_of_not_bare full
        rw [Option.filter_some, if_pos (by simpa using empty)]
        simp only [data, tip_of_carried .flat filled, point.of_current_to_current]

theorem to_json_not_found_filter (tip : Option BlockPoint) :
    toJson (.notFound (tip.filter (· ≠ BlockPoint.empty))) = toJson (.notFound tip) := by
  cases tip with
  | none => rfl
  | some point =>
      by_cases empty : point = BlockPoint.empty
      · subst empty
        rfl
      · rw [Option.filter_some, if_pos (by simpa using empty)]

end IntersectionResult

end Legacy

/-- A response to the search for an intersection reports an error in the place of its result, or
within a result that holds no intersection. -/
inductive Current.Response.ReportsSearch (response : Response) (report : ErrorReport) : Prop
  | outside (method : response.method = findIntersection) (holds : response.result = none)
      (error : response.error = some report)
  | inside (result : IntersectionResult) (method : response.method = findIntersection)
      (holds : response.result = some (.intersection result)) (none : result.intersection = none)
      (error : result.error = some report)

namespace Legacy.Response

theorem of_current_of_reported {response : Current.Response} {report : Current.ErrorReport}
    (reports : response.ReportsSearch report) :
    ofCurrent response = .ok ⟨"response", "1.0", "ogmios", "FindIntersect",
      some (.intersection (.notFound (IntersectionResult.tipOfData report.data))),
      response.id⟩ := by
  obtain ⟨jsonrpc, method, result, error, id⟩ := response
  cases reports with
  | outside method holds error =>
      dsimp only at method holds error
      subst method holds error
      rfl
  | inside result method holds none error =>
      obtain ⟨intersection, tip, failure, inner⟩ := result
      dsimp only at method holds none error
      subst method holds none error
      rfl

/-- An intersection that was not found, as it is sent in the current schema, printed, read back and
converted again. -/
theorem returned_of_not_found {response : Response} {tip : Option BlockPoint}
    (holds : response.result = some (.intersection (.notFound tip))) :
    ∃ sent back, response.toCurrent = .ok sent ∧
      Current.Response.ofJson sent.toJson = .ok back ∧
      ofCurrent back = .ok ⟨"response", "1.0", "ogmios", "FindIntersect",
        some (.intersection (.notFound (tip.filter (· ≠ BlockPoint.empty)))),
        response.reflection.settle⟩ := by
  let report := IntersectionResult.notFoundError IntersectionResult.convertedMessage tip
  let sent : Current.Response :=
    ⟨"2.0", Current.findIntersection, none, some report, response.reflection⟩
  have converts : response.toCurrent = .ok sent := by
    unfold toCurrent
    rw [holds]
  have full : report.toJson.isBare = false := rfl
  have reads := Current.Response.of_json_to_json_of_error
    (show sent.result = none from rfl) (show sent.error = some report from rfl) full
  refine ⟨sent, _, converts, reads, ?_⟩
  rw [of_current_of_reported (.outside rfl rfl rfl), IntersectionResult.tip_of_printed_error]

/-- A legacy answer of no intersection keeps its result and its reflection on the way through the
current schema, and an error of the current schema is always one of no intersection in the legacy
schema, with the tip that its data carry. -/
theorem not_found_carried_over :
    (∀ (response : Response) (tip : Option BlockPoint),
      response.result = some (.intersection (.notFound tip)) →
        ∃ sent back returned, response.toCurrent = .ok sent ∧
          Current.Response.ofJson sent.toJson = .ok back ∧ ofCurrent back = .ok returned ∧
          returned.result.map Result.toJson = response.result.map Result.toJson ∧
          returned.reflection = response.reflection.settle) ∧
      ∀ (response : Current.Response) (report : Current.ErrorReport),
        response.ReportsSearch report →
          ∃ returned tip, ofCurrent response = .ok returned ∧
            returned.result = some (.intersection (.notFound tip)) ∧
            ∀ point, point ≠ ⟨"", 0, none⟩ → CarriesTip point report.data →
              tip = some ⟨point.height.getD 0, point.id, point.slot⟩ := by
  constructor
  · intro response tip holds
    obtain ⟨sent, back, converts, reads, returns⟩ := returned_of_not_found holds
    refine ⟨sent, back, _, converts, reads, returns, ?_, rfl⟩
    rw [holds]
    exact congrArg some (IntersectionResult.to_json_not_found_filter tip)
  · intro response report reports
    refine ⟨_, _, of_current_of_reported reports, rfl, ?_⟩
    intro point filled carries
    exact IntersectionResult.tip_of_carried carries filled

/-- A tip of a slot and a height, without a hash, goes there and back, and is found under its name
in the data of an error. -/
theorem not_found_carried_over_of_tip :
    (∃ sent back returned,
      toCurrent ⟨"jsonwsp/response", "1.0", "ogmios", "FindIntersect",
        some (.intersection (.notFound (some ⟨9, "", 100⟩))), .text "INIT"⟩ = .ok sent ∧
      Current.Response.ofJson sent.toJson = .ok back ∧ ofCurrent back = .ok returned ∧
      returned.result.map Result.toJson =
        some (.object [("IntersectionNotFound", .object [("tip",
          .object [("blockNo", .int 9), ("slot", .int 100)])])]) ∧
      returned.reflection = .text "INIT") ∧
    ∃ returned, ofCurrent ⟨"2.0", Current.findIntersection, none,
        some ⟨1000, "", .object [("tip", .object [("height", .int 9), ("slot", .int 100)])],
          .null⟩, .null⟩ = .ok returned ∧
      returned.result = some (.intersection (.notFound (some ⟨9, "", 100⟩))) := by
  constructor
  · obtain ⟨sent, back, returned, converts, reads, returns, result, reflection⟩ :=
      not_found_carried_over.1 ⟨"jsonwsp/response", "1.0", "ogmios", "FindIntersect",
        some (.intersection (.notFound (some ⟨9, "", 100⟩))), .text "INIT"⟩ _ rfl
    exact ⟨sent, back, returned, converts, reads, returns, result, reflection⟩
  · obtain ⟨returned, tip, returns, result, carried⟩ :=
      not_found_carried_over.2 ⟨"2.0", Current.findIntersection, none,
        some ⟨1000, "", .object [("tip", .object [("height", .int 9), ("slot", .int 100)])],
          .null⟩, .null⟩ _ (.outside rfl rfl rfl)
    have found := carried ⟨"", 100, some 9⟩ (by decide) (.nested rfl)
    subst found
    exact ⟨returned, returns, result⟩

end Legacy.Response

end NodeBridge
