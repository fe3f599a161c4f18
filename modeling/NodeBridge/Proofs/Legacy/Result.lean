import NodeBridge.Legacy.Response
import NodeBridge.Proofs.Current.Response

/-!
Legacy results, alone and in a response. A response may hold a result of any method, and answers
to the search for an intersection go before steps along the chain; a result that stands alone is
read as one of its method only. When a response is converted, it holds its result, or an error where
no intersection was found.
-/

namespace NodeBridge.Legacy

theorem first_variant_mem {fields : Fields} {names : List String} {name : String} {value : Json}
    (first : firstVariant? fields names = some (name, value)) : name ∈ names := by
  induction names with
  | nil => cases first
  | cons head names induction =>
      simp only [firstVariant?] at first
      split at first
      · exact List.mem_cons_of_mem _ (induction first)
      · cases first
        exact List.mem_cons_self

theorem first_variant_append (fields : Fields) (front back : List String) :
    firstVariant? fields (front ++ back) =
      (firstVariant? fields front).or (firstVariant? fields back) := by
  induction front with
  | nil => rfl
  | cons head front induction =>
      simp only [List.cons_append, firstVariant?, induction]
      split <;> rfl

namespace Result

/-- A variant of the search for an intersection goes before the steps along the chain. -/
theorem of_json_object (fields : Fields) :
    ofJson (.object fields) =
      match firstVariant? fields IntersectionResult.variantNames with
      | some (name, value) => (IntersectionResult.readVariant name value).map .intersection
      | none =>
          match firstVariant? fields BlockResult.variantNames with
          | some (name, value) => (BlockResult.readVariant name value).map .block
          | none => .error (.noVariant "v5 result" variantNames) := by
  simp only [ofJson, Decode.object_object, Decode.ok_bind, variantNames, first_variant_append]
  cases search : firstVariant? fields IntersectionResult.variantNames with
  | some variant =>
      have known : IntersectionResult.variantNames.contains variant.1 = true :=
        List.contains_iff_mem.mpr (first_variant_mem search)
      simp only [Option.some_or, readVariant, known, if_true]
  | none =>
      cases step : firstVariant? fields BlockResult.variantNames with
      | none => rfl
      | some variant =>
          have other : ∀ name ∈ BlockResult.variantNames,
              IntersectionResult.variantNames.contains name = false := by
            decide
          simp only [Option.none_or, readVariant, other _ (first_variant_mem step)]
          rfl

/-- The legacy result of a method, if it stands alone. -/
def readAlone (method : String) (payload : Json) : Decoded Result :=
  if method = Current.findIntersection then (IntersectionResult.ofJson payload).map .intersection
  else (BlockResult.ofJson payload).map .block

/-- The method that a legacy result belongs to. -/
def method : Result → String
  | .intersection _ => Current.findIntersection
  | .block _ => Current.nextBlock

theorem read_alone_intersection (fields : Fields) :
    readAlone Current.findIntersection (.object fields) =
      match firstVariant? fields IntersectionResult.variantNames with
      | some (name, value) => (IntersectionResult.readVariant name value).map .intersection
      | none => .error (.noVariant "v5 findIntersection result" IntersectionResult.variantNames) := by
  rw [readAlone, if_pos rfl]
  simp only [IntersectionResult.ofJson, Decode.object_object, Decode.ok_bind]
  cases firstVariant? fields IntersectionResult.variantNames <;> rfl

theorem read_alone_step (fields : Fields) :
    readAlone Current.nextBlock (.object fields) =
      match firstVariant? fields BlockResult.variantNames with
      | some (name, value) => (BlockResult.readVariant name value).map .block
      | none => .error (.noVariant "v5 nextBlock result" BlockResult.variantNames) := by
  rw [readAlone, if_neg (by decide)]
  simp only [BlockResult.ofJson, Decode.object_object, Decode.ok_bind]
  cases firstVariant? fields BlockResult.variantNames <;> rfl

theorem method_of_read_alone {method : String} {payload : Json} {result : Result}
    (known : method = Current.findIntersection ∨ method = Current.nextBlock)
    (reads : readAlone method payload = .ok result) : result.method = method := by
  unfold readAlone at reads
  rcases known with rfl | rfl
  · rw [if_pos rfl] at reads
    obtain ⟨found, -, rfl⟩ := map_eq_ok.mp reads
    rfl
  · rw [if_neg (by decide)] at reads
    obtain ⟨found, -, rfl⟩ := map_eq_ok.mp reads
    rfl

/-- Results of different methods never become the same one. -/
theorem method_of_to_current {left right : Result} {current : Current.Result}
    (first : left.toCurrent = .ok current) (second : right.toCurrent = .ok current) :
    left.method = right.method := by
  cases left with
  | intersection found =>
      cases first
      cases right with
      | intersection other => rfl
      | block step =>
          obtain ⟨other, -, same⟩ := map_eq_ok.mp second
          cases same
  | block step =>
      obtain ⟨found, -, rfl⟩ := map_eq_ok.mp first
      cases right with
      | intersection other => cases second
      | block other => rfl

/-- A legacy result is read alike alone, if it is one of the method that was asked for. -/
theorem read_alone_of_json {payload : Json} {result : Result} (reads : ofJson payload = .ok result) :
    readAlone result.method payload = .ok result := by
  cases payload with
  | object fields =>
      rw [of_json_object] at reads
      cases search : firstVariant? fields IntersectionResult.variantNames with
      | some variant =>
          simp only [search] at reads
          obtain ⟨found, -, same⟩ := map_eq_ok.mp reads
          cases same
          rw [method, read_alone_intersection, search]
          exact reads
      | none =>
          simp only [search] at reads
          cases step : firstVariant? fields BlockResult.variantNames with
          | some variant =>
              simp only [step] at reads
              obtain ⟨found, -, same⟩ := map_eq_ok.mp reads
              cases same
              rw [method, read_alone_step, step]
              exact reads
          | none =>
              simp only [step] at reads
              cases reads
  | _ => cases reads

/-- A legacy answer to the search for an intersection is read alike among all results. -/
theorem of_json_of_read_alone {payload : Json} {result : Result}
    (reads : readAlone Current.findIntersection payload = .ok result) :
    ofJson payload = .ok result := by
  cases payload with
  | object fields =>
      rw [read_alone_intersection] at reads
      rw [of_json_object]
      cases search : firstVariant? fields IntersectionResult.variantNames with
      | some variant =>
          simp only [search] at reads
          exact reads
      | none =>
          simp only [search] at reads
          cases reads
  | _ => cases reads

/-- A legacy result that cannot be converted is a step along the chain, and no other result stands
beside it. -/
theorem alone_of_unconverted {method : String} {payload : Json} {result own : Result}
    (known : method = Current.findIntersection ∨ method = Current.nextBlock)
    (reads : ofJson payload = .ok result) (stuck : ∀ current, result.toCurrent ≠ .ok current)
    (read : readAlone method payload = .ok own) : own = result := by
  rcases known with rfl | rfl
  · rw [of_json_of_read_alone read] at reads
    exact Except.ok.inj reads
  · cases result with
    | intersection found => exact absurd rfl (stuck _)
    | block step =>
        have alone : readAlone Current.nextBlock payload = .ok (.block step) :=
          read_alone_of_json reads
        rw [alone] at read
        exact (Except.ok.inj read).symm

end Result

theorem Response.read_result {json : Json} {response : Response}
    (reads : Response.ofJson json = .ok response) :
    ∃ inner result, response.result = some result ∧ Result.ofJson inner = .ok result := by
  simp only [ofJson, bind_eq_ok] at reads
  obtain ⟨fields, -, reads⟩ := reads
  split at reads
  · cases reads
  · simp only [bind_eq_ok] at reads
    obtain ⟨_, -, _, -, _, -, _, -, result, read, same⟩ := reads
    cases same
    exact ⟨_, result, rfl, read⟩

/-- What a response with a result holds after its conversion: the result, or nothing if no
intersection was found. -/
theorem Response.result_of_to_current {response : Response} {result : Result}
    {sent : Current.Response} (holds : response.result = some result)
    (converts : response.toCurrent = .ok sent) :
    ∃ current, result.toCurrent = .ok current ∧
      ((∃ tip, result = .intersection (.notFound tip)) ∧ sent.result = none ∨
        (∀ tip, result ≠ .intersection (.notFound tip)) ∧ sent.result = some current) := by
  unfold toCurrent at converts
  rw [holds] at converts
  cases result with
  | intersection result =>
      cases result with
      | found point tip =>
          cases converts
          exact ⟨_, rfl, .inr ⟨nofun, rfl⟩⟩
      | notFound tip =>
          cases converts
          exact ⟨_, rfl, .inl ⟨⟨tip, rfl⟩, rfl⟩⟩
  | block step =>
      obtain ⟨found, changed, same⟩ := bind_eq_ok.mp converts
      cases same
      exact ⟨_, map_eq_ok.mpr ⟨found, changed, rfl⟩, .inr ⟨nofun, rfl⟩⟩

/-- A response is converted if its result is. -/
theorem Response.to_current_of_result (type version serviceName methodName : String)
    (reflection : Json) {result : Result} {current : Current.Result}
    (converts : result.toCurrent = .ok current) :
    ∃ sent, toCurrent ⟨type, version, serviceName, methodName, some result, reflection⟩ =
      .ok sent := by
  unfold toCurrent
  cases result with
  | intersection result => cases result <;> exact ⟨_, rfl⟩
  | block step =>
      obtain ⟨found, changed, -⟩ := map_eq_ok.mp converts
      dsimp only
      rw [changed]
      exact ⟨_, rfl⟩

/-- A legacy response that was converted: an intersection that was not found is an error. -/
theorem Response.to_current_cases {json : Json} {response : Response}
    {current : Current.Response} (reads : Response.ofJson json = .ok response)
    (converts : response.toCurrent = .ok current) :
    current.HoldsOutcome ∧
      (current.method = Current.nextBlock → current.error = none) := by
  obtain ⟨inner, result, holds, -⟩ := Response.read_result reads
  unfold toCurrent at converts
  rw [holds] at converts
  cases result with
  | intersection result =>
      cases result with
      | found point tip =>
          cases converts
          exact ⟨.intersection _ rfl rfl rfl, fun _ => rfl⟩
      | notFound tip =>
          cases converts
          refine ⟨.failure _ rfl rfl, fun next => ?_⟩
          have other : ¬Current.findIntersection = Current.nextBlock := by decide
          exact absurd next other
  | block result =>
      obtain ⟨step, -, same⟩ := bind_eq_ok.mp converts
      cases same
      exact ⟨.step step rfl rfl rfl, fun _ => rfl⟩

end NodeBridge.Legacy
