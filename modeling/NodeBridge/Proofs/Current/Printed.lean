import NodeBridge.Current.Response
import NodeBridge.Proofs.Document.Printed

/-!
Printed parts of the current schema are read back: points with all that they say, and errors but
for documents in them that say nothing. A response that holds an error keeps it, under the current
name of its method.
-/

namespace NodeBridge

open Json Decode

theorem Json.has_iff_mem {fields : Fields} {name : String} :
    has fields name = true ↔ name ∈ fields.map Prod.fst := by
  unfold has
  rw [Option.isSome_iff_ne_none, ne_eq, List.lookup_eq_none_iff]
  constructor
  · intro found
    by_contra absent
    apply found
    intro field member
    have other : name ≠ field.1 := by
      rintro rfl
      exact absent (List.mem_map_of_mem member)
    simpa using other
  · intro member absent
    obtain ⟨field, there, rfl⟩ := List.mem_map.mp member
    simpa using absent field there

namespace BlockPoint

/-- The point that says nothing. -/
theorem fields_eq_nil_iff (point : BlockPoint) : point.fields = [] ↔ point = ⟨"", 0, none⟩ := by
  obtain ⟨id, slot, height⟩ := point
  cases height with
  | none => simp [fields, compact, isBare]
  | some height => simp [fields]

theorem names_of_fields {point : BlockPoint} {name : String}
    (member : name ∈ point.fields.map Prod.fst) : name ∈ ["height", "id", "slot"] := by
  obtain ⟨id, slot, height⟩ := point
  obtain ⟨field, there, rfl⟩ := List.mem_map.mp member
  rw [fields, List.mem_append] at there
  rcases there with first | rest
  · cases height with
    | none => cases first
    | some height =>
        rw [List.mem_singleton] at first
        simp [first]
  · have named : field ∈ [("id", Json.text id), ("slot", Json.int slot)] :=
      List.mem_of_mem_filter rest
    rcases List.mem_pair.mp named with rfl | rfl <;> simp

theorem of_json_to_json (point : BlockPoint) : ofJson point.toJson = .ok point := by
  obtain ⟨id, slot, height⟩ := point
  cases height with
  | none => simp [ofJson, toJson, fields, get_compact, get_cons, Decode.optional]
  | some height => simp [ofJson, toJson, fields, get_compact, get_cons, Decode.optional, Except.map]

end BlockPoint

namespace Current

def ErrorReport.settle (report : ErrorReport) : ErrorReport :=
  { report with data := report.data.settle, id := report.id.settle }

theorem ErrorReport.of_json_to_json (report : ErrorReport) :
    ofJson report.toJson = .ok report.settle := by
  simp [ofJson, toJson, get_compact, get_cons, settle]

/-- A response that holds an error which says something keeps it. -/
theorem Response.of_json_to_json_of_error {response : Response} {report : ErrorReport}
    (holds : response.result = none) (error : response.error = some report)
    (full : report.toJson.isBare = false) :
    ofJson response.toJson = .ok { response with
      method := (knownMethod? response.method).getD response.method
      error := some report.settle
      id := response.id.settle } := by
  obtain ⟨jsonrpc, method, result, failure, id⟩ := response
  obtain rfl : result = none := holds
  obtain rfl : failure = some report := error
  have printed : (ofOption ErrorReport.toJson (some report)).settle = report.toJson :=
    settle_of_not_bare full
  have there : report.toJson ≠ .null := by
    intro null
    rw [null] at full
    cases full
  simp [ofJson, toJson, get_compact, get_cons, printed, optional_of_ne_null there,
    ErrorReport.of_json_to_json, Except.map]

end Current

end NodeBridge
