import NodeBridge.Current.Response
import NodeBridge.Proofs.Document.Printed
import NodeBridge.Proofs.Document.Read

/-!
What a response of the current schema holds that was read: an answer of the kind that its method
asks for, or an error.
-/

namespace NodeBridge

namespace Current

/-- What a response holds that was read. -/
inductive Response.HoldsOutcome (response : Response) : Prop
  | intersection (result : IntersectionResult) (method : response.method = findIntersection)
      (holds : response.result = some (.intersection result)) (error : response.error = none)
  | step (result : BlockResult) (method : response.method = nextBlock)
      (holds : response.result = some (.block result)) (error : response.error = none)
  | failure (report : ErrorReport) (holds : response.result = none)
      (error : response.error = some report)

theorem known_method_cases {name method : String} (known : knownMethod? name = some method) :
    method = findIntersection ∨ method = nextBlock := by
  unfold knownMethod? at known
  split at known
  · exact .inl (Option.some.inj known).symm
  · split at known
    · exact .inr (Option.some.inj known).symm
    · cases known

/-- Reading a response of the current schema: with an error the method may be any, and without
one it is known and tells how the result is read. -/
theorem Response.of_json_cases {json : Json} {response : Response}
    (reads : ofJson json = .ok response) :
    ∃ fields name, Decode.object "response" json = .ok fields ∧
      Decode.text "response.method" (Json.get fields "method") = .ok name ∧
      ((∃ report, ErrorReport.ofJson (Json.get fields "error") = .ok report ∧
          Json.get fields "error" ≠ .null ∧ response.method = (knownMethod? name).getD name ∧
          response.result = none ∧ response.error = some report) ∨
        ∃ method result, Json.get fields "error" = .null ∧ knownMethod? name = some method ∧
          readResult method (Json.get fields "result") = .ok result ∧
          response.method = method ∧ response.result = some result ∧ response.error = none) := by
  simp only [ofJson, bind_eq_ok] at reads
  obtain ⟨fields, object, name, text, version, -, error, optional, rest⟩ := reads
  refine ⟨fields, name, object, text, ?_⟩
  cases error with
  | some report =>
      cases rest
      have there : Json.get fields "error" ≠ .null := by
        intro null
        rw [null] at optional
        cases optional
      exact .inl ⟨report, Decode.of_optional optional, there, rfl, rfl, rfl⟩
  | none =>
      have null : Json.get fields "error" = .null := by
        by_contra there
        rw [Decode.optional_of_ne_null there, map_eq_ok] at optional
        obtain ⟨_, -, same⟩ := optional
        cases same
      dsimp only at rest
      split at rest
      · cases rest
      · next method known =>
          obtain ⟨result, read, same⟩ := bind_eq_ok.mp rest
          cases same
          exact .inr ⟨method, result, null, known, read, rfl, rfl, rfl⟩

theorem Response.outcome_of_json {json : Json} {response : Response}
    (reads : ofJson json = .ok response) : response.HoldsOutcome := by
  obtain ⟨fields, name, -, -, ⟨report, -, -, -, holds, error⟩ |
    ⟨method, result, -, known, read, same, holds, error⟩⟩ := of_json_cases reads
  · exact .failure report holds error
  · unfold readResult at read
    rcases known_method_cases known with rfl | rfl
    · rw [if_pos rfl] at read
      obtain ⟨found, -, rfl⟩ := map_eq_ok.mp read
      exact .intersection found same holds error
    · rw [if_neg (by decide)] at read
      obtain ⟨found, -, rfl⟩ := map_eq_ok.mp read
      exact .step found same holds error

/-- A response that was read and holds a step along the chain read it from some document. -/
theorem Response.block_result_of_json {json : Json} {response : Response} {result : BlockResult}
    (reads : Response.ofJson json = .ok response) (holds : response.blockResult = .ok result) :
    response.method = nextBlock ∧ response.result = some (.block result) ∧
      ∃ inner, BlockResult.ofJson inner = .ok result := by
  have both : response.method = nextBlock ∧ response.result = some (.block result) := by
    unfold blockResult at holds
    split at holds
    · cases holds
    · next method =>
        refine ⟨not_not.mp method, ?_⟩
        split at holds
        · next found there =>
            cases holds
            exact there
        · cases holds
  refine ⟨both.1, both.2, ?_⟩
  obtain ⟨fields, name, -, -, ⟨report, -, -, -, none, -⟩ |
    ⟨method, other, -, -, read, same, held, -⟩⟩ := of_json_cases reads
  · rw [none] at both
    cases both.2
  · rw [held] at both
    cases both.2
    have next : ¬method = findIntersection := by
      rw [← same, both.1]
      decide
    rw [readResult, if_neg next] at read
    obtain ⟨found, reads, same⟩ := map_eq_ok.mp read
    cases same
    exact ⟨_, reads⟩

end Current

end NodeBridge
