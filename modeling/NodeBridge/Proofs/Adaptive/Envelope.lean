import NodeBridge.Proofs.Adaptive.Reading
import NodeBridge.Proofs.Legacy.Result

/-!
A result that stands alone and the same result in a response. Alone, a result of the current
schema has to say something, and otherwise it is read under the legacy schema as a result of its
method. In a response whatever can be read as a result of the current schema is taken, and
otherwise it is read as a legacy result of any method. So the two readings part where a result
says nothing, and where a legacy result is taken for an answer to another method.
-/

namespace NodeBridge

namespace Current

/-- Whether a result says what it is a result of: an intersection or why there is none, or the
direction of a step. -/
def Result.isTelling : Result → Bool
  | .intersection result => result.intersection.isSome || result.error.isSome
  | .block result => !result.direction.isEmpty

end Current

namespace Adaptive

/-- A result of the current schema in a response to a method. -/
def enveloped (method : String) (payload : Json) : Json :=
  .object [("jsonrpc", .text "2.0"), ("method", .text method), ("result", payload)]

/-- Reads a result of a method that stands alone. -/
def decodeBare (method : String) (payload : Json) : Converted Current.Result :=
  if method = Current.findIntersection then (intersectionResult.decode payload).map .intersection
  else (blockResult.decode payload).map .block

/-- A result is read alike in a response and alone: it is taken in both places or in none, and
then it is the same result. -/
structure DecodesAlike (method : String) (payload : Json) : Prop where
  accepted : (∃ sent, response.decode (enveloped method payload) = .ok sent) ↔
    ∃ result, decodeBare method payload = .ok result
  same : ∀ sent result, response.decode (enveloped method payload) = .ok sent →
    decodeBare method payload = .ok result → sent.result = some result

/-- Whether a legacy result that comes in a response answers a method with a result. Where no
intersection was found, the response holds an error instead. -/
def answers (method : String) : Legacy.Result → Bool
  | .intersection (.notFound _) => false
  | result => result.method == method

theorem answers_iff (method : String) (result : Legacy.Result) :
    answers method result = true ↔
      result.method = method ∧ ∀ tip, result ≠ .intersection (.notFound tip) := by
  unfold answers
  split
  · next tip => exact iff_of_false Bool.false_ne_true fun other => other.2 tip rfl
  · next other => rw [beq_iff_eq, and_iff_left other]

/-- How a result in a response and the same result alone part. -/
inductive Strays (method : String) (payload : Json) : Prop
  /-- The result says nothing, and what it says in the legacy schema, if anything, differs. -/
  | vague (result : Current.Result)
      (reads : Current.Response.readResult method payload = .ok result)
      (silent : result.isTelling = false)
      (differs : ∀ legacy, Legacy.Result.readAlone method payload = .ok legacy →
        legacy.toCurrent ≠ .ok result)
  /-- A legacy result is taken that does not answer the method. -/
  | stray (error : DecodeError) (legacy : Legacy.Result) (current : Current.Result)
      (fails : Current.Response.readResult method payload = .error error)
      (reads : Legacy.Result.ofJson payload = .ok legacy) (other : answers method legacy = false)
      (converts : legacy.toCurrent = .ok current)
  /-- A legacy answer to the method cannot be read for an answer to the other one beside it. -/
  | hidden (error another : DecodeError) (legacy : Legacy.Result) (current : Current.Result)
      (fails : Current.Response.readResult method payload = .error error)
      (unread : Legacy.Result.ofJson payload = .error another)
      (reads : Legacy.Result.readAlone method payload = .ok legacy)
      (converts : legacy.toCurrent = .ok current)

theorem DecodesAlike.of_both {method : String} {payload : Json} {sent : Current.Response}
    {result : Current.Result} (within : response.decode (enveloped method payload) = .ok sent)
    (alone : decodeBare method payload = .ok result) (holds : sent.result = some result) :
    DecodesAlike method payload := by
  refine ⟨⟨fun _ => ⟨result, alone⟩, fun _ => ⟨sent, within⟩⟩, ?_⟩
  intro otherSent other decodes reads
  rw [within] at decodes
  rw [alone] at reads
  cases decodes
  cases reads
  exact holds

theorem DecodesAlike.of_neither {method : String} {payload : Json}
    (within : ∀ sent, response.decode (enveloped method payload) ≠ .ok sent)
    (alone : ∀ result, decodeBare method payload ≠ .ok result) : DecodesAlike method payload := by
  refine ⟨⟨?_, ?_⟩, ?_⟩
  · rintro ⟨sent, decodes⟩
    exact absurd decodes (within sent)
  · rintro ⟨result, reads⟩
    exact absurd reads (alone result)
  · intro sent result decodes
    exact absurd decodes (within sent)

/-! What becomes of a result in a response. -/

section

variable {method : String} {payload : Json}

theorem current_of_json_enveloped
    (known : method = Current.findIntersection ∨ method = Current.nextBlock) :
    Current.Response.ofJson (enveloped method payload) =
      (Current.Response.readResult method payload).map fun result =>
        ⟨"2.0", method, some result, none, .null⟩ := by
  have named : Current.knownMethod? method = some method := by
    rcases known with rfl | rfl <;> rfl
  simp only [Current.Response.ofJson, enveloped, Decode.object_object, Decode.ok_bind,
    Json.get_cons, String.reduceEq, if_true, if_false, Decode.text_text, Json.get_nil,
    Decode.optional, named]
  cases Current.Response.readResult method payload <;> rfl

theorem legacy_of_json_enveloped (filled : payload ≠ .null) :
    Legacy.Response.ofJson (enveloped method payload) =
      (Legacy.Result.ofJson payload).map fun result =>
        ⟨"", "", "", "", some result, .null⟩ := by
  have there : payload.isNull = false := Json.is_null_of_ne_null filled
  simp only [Legacy.Response.ofJson, enveloped, Decode.object_object, Decode.ok_bind,
    Json.get_cons, String.reduceEq, if_true, if_false, Json.get_nil, there, Decode.text]
  cases Legacy.Result.ofJson payload <;> rfl

/-- Whatever can be read as a result of the current schema is taken, even if it says nothing. -/
theorem decode_enveloped_of_current {result : Current.Result}
    (known : method = Current.findIntersection ∨ method = Current.nextBlock)
    (filled : payload ≠ .null)
    (reads : Current.Response.readResult method payload = .ok result) :
    response.decode (enveloped method payload) =
      .ok ⟨"2.0", method, some result, none, .null⟩ := by
  apply Reading.decode_of_current
  · show Current.Response.ofJson _ = _
    rw [current_of_json_enveloped known, reads]
    rfl
  · show holdsOutcome (enveloped method payload) = true
    have there : payload.isNull = false := Json.is_null_of_ne_null filled
    simp [holdsOutcome, enveloped, Json.get_cons, there]

/-- Any other result in a response is read as a legacy result, whatever its method is. -/
theorem decode_enveloped_of_error {error : DecodeError} {sent : Current.Response}
    (known : method = Current.findIntersection ∨ method = Current.nextBlock)
    (filled : payload ≠ .null)
    (fails : Current.Response.readResult method payload = .error error) :
    response.decode (enveloped method payload) = .ok sent ↔
      ∃ legacy, Legacy.Result.ofJson payload = .ok legacy ∧
        Legacy.Response.toCurrent ⟨"", "", "", "", some legacy, .null⟩ = .ok sent := by
  have unread : ∀ other, response.current (enveloped method payload) = .ok other →
      response.fitsCurrent other (enveloped method payload) = false := by
    intro other reads
    have none : Current.Response.ofJson (enveloped method payload) = .ok other := reads
    rw [current_of_json_enveloped known, fails] at none
    cases none
  rw [Reading.decode_of_unfit unread]
  show (∃ found, (Legacy.Response.ofJson _ = .ok found ∧ true = true) ∧ _) ↔ _
  rw [legacy_of_json_enveloped filled]
  constructor
  · rintro ⟨found, ⟨reads, -⟩, converts⟩
    obtain ⟨legacy, read, rfl⟩ := map_eq_ok.mp reads
    exact ⟨legacy, read, converts⟩
  · rintro ⟨legacy, read, converts⟩
    exact ⟨_, ⟨map_eq_ok.mpr ⟨legacy, read, rfl⟩, rfl⟩, converts⟩

/-! What becomes of a result that stands alone. -/

theorem decode_bare_of_telling {result : Current.Result}
    (reads : Current.Response.readResult method payload = .ok result)
    (telling : result.isTelling = true) : decodeBare method payload = .ok result := by
  unfold Current.Response.readResult at reads
  unfold decodeBare
  split at reads
  · next search =>
      obtain ⟨found, read, rfl⟩ := map_eq_ok.mp reads
      have decodes : intersectionResult.decode payload = .ok found :=
        Reading.decode_of_current read telling
      rw [if_pos search, decodes]
      rfl
  · next step =>
      obtain ⟨found, read, rfl⟩ := map_eq_ok.mp reads
      have decodes : blockResult.decode payload = .ok found :=
        Reading.decode_of_current read telling
      rw [if_neg step, decodes]
      rfl

/-- A result that says nothing in the current schema is read as a legacy result of its method. -/
theorem decode_bare_of_silent {current : Current.Result}
    (silent : ∀ result, Current.Response.readResult method payload = .ok result →
      result.isTelling = false) :
    decodeBare method payload = .ok current ↔
      ∃ legacy, Legacy.Result.readAlone method payload = .ok legacy ∧
        legacy.toCurrent = .ok current := by
  unfold Current.Response.readResult at silent
  unfold decodeBare Legacy.Result.readAlone
  split at silent
  · next search =>
      have unfit : ∀ found, intersectionResult.current payload = .ok found →
          intersectionResult.fitsCurrent found payload = false := fun found reads =>
        silent (.intersection found) (map_eq_ok.mpr ⟨found, reads, rfl⟩)
      rw [if_pos search, if_pos search, map_eq_ok]
      simp only [Reading.decode_of_unfit unfit, map_eq_ok]
      constructor
      · rintro ⟨found, ⟨legacy, ⟨reads, -⟩, converts⟩, rfl⟩
        cases converts
        exact ⟨.intersection legacy, ⟨legacy, reads, rfl⟩, rfl⟩
      · rintro ⟨_, ⟨legacy, reads, rfl⟩, converts⟩
        cases converts
        exact ⟨legacy.toCurrent, ⟨legacy, ⟨reads, rfl⟩, rfl⟩, rfl⟩
  · next step =>
      have unfit : ∀ found, blockResult.current payload = .ok found →
          blockResult.fitsCurrent found payload = false := fun found reads =>
        silent (.block found) (map_eq_ok.mpr ⟨found, reads, rfl⟩)
      rw [if_neg step, if_neg step, map_eq_ok]
      simp only [Reading.decode_of_unfit unfit, map_eq_ok]
      constructor
      · rintro ⟨found, ⟨legacy, ⟨reads, -⟩, converts⟩, rfl⟩
        exact ⟨.block legacy, ⟨legacy, reads, rfl⟩, map_eq_ok.mpr ⟨found, converts, rfl⟩⟩
      · rintro ⟨_, ⟨legacy, reads, rfl⟩, converts⟩
        obtain ⟨found, changed, rfl⟩ := map_eq_ok.mp converts
        exact ⟨found, ⟨legacy, ⟨reads, rfl⟩, changed⟩, rfl⟩

theorem silent_of_error {error : DecodeError}
    (fails : Current.Response.readResult method payload = .error error) :
    ∀ result, Current.Response.readResult method payload = .ok result →
      result.isTelling = false := by
  intro result reads
  rw [fails] at reads
  cases reads

theorem silent_of_result {result : Current.Result}
    (reads : Current.Response.readResult method payload = .ok result)
    (silent : result.isTelling = false) :
    ∀ other, Current.Response.readResult method payload = .ok other →
      other.isTelling = false := by
  intro other again
  rw [reads] at again
  cases again
  exact silent

/-- A legacy result that does not answer the method is taken in a response, and alone it is
refused or another one is read. -/
theorem not_alike_of_stray {error : DecodeError} {legacy : Legacy.Result}
    {current : Current.Result}
    (known : method = Current.findIntersection ∨ method = Current.nextBlock)
    (filled : payload ≠ .null)
    (fails : Current.Response.readResult method payload = .error error)
    (reads : Legacy.Result.ofJson payload = .ok legacy) (other : answers method legacy = false)
    (converts : legacy.toCurrent = .ok current) : ¬DecodesAlike method payload := by
  rintro ⟨accepted, same⟩
  obtain ⟨sent, changed⟩ :=
    Legacy.Response.to_current_of_result "" "" "" "" .null converts
  have within := (decode_enveloped_of_error known filled fails).mpr ⟨legacy, reads, changed⟩
  obtain ⟨found, alone⟩ := accepted.mp ⟨sent, within⟩
  have holds := same sent found within alone
  obtain ⟨own, read, becomes⟩ := (decode_bare_of_silent (silent_of_error fails)).mp alone
  obtain ⟨held, turned, ⟨-, none⟩ | ⟨stands, some⟩⟩ :=
    Legacy.Response.result_of_to_current rfl changed
  · rw [none] at holds
    cases holds
  · rw [some] at holds
    cases holds
    have answering : answers method legacy = true := by
      rw [answers_iff, Legacy.Result.method_of_to_current turned becomes]
      exact ⟨Legacy.Result.method_of_read_alone known read, stands⟩
    rw [other] at answering
    cases answering

theorem not_alike_of_strays
    (known : method = Current.findIntersection ∨ method = Current.nextBlock)
    (filled : payload ≠ .null) (strays : Strays method payload) :
    ¬DecodesAlike method payload := by
  cases strays with
  | vague result reads silent differs =>
      rintro ⟨accepted, same⟩
      have within := decode_enveloped_of_current known filled reads
      obtain ⟨found, alone⟩ := accepted.mp ⟨_, within⟩
      cases same _ found within alone
      obtain ⟨legacy, read, converts⟩ :=
        (decode_bare_of_silent (silent_of_result reads silent)).mp alone
      exact differs legacy read converts
  | stray error legacy current fails reads other converts =>
      exact not_alike_of_stray known filled fails reads other converts
  | hidden error another legacy current fails unread reads converts =>
      rintro ⟨accepted, -⟩
      have alone := (decode_bare_of_silent (silent_of_error fails)).mpr ⟨legacy, reads, converts⟩
      obtain ⟨sent, within⟩ := accepted.mpr ⟨current, alone⟩
      obtain ⟨found, read, -⟩ := (decode_enveloped_of_error known filled fails).mp within
      rw [unread] at read
      cases read

/-- A legacy result that answers the method is the same one in a response and alone. -/
theorem alike_of_answer {error : DecodeError} {legacy : Legacy.Result} {current : Current.Result}
    (known : method = Current.findIntersection ∨ method = Current.nextBlock)
    (filled : payload ≠ .null)
    (fails : Current.Response.readResult method payload = .error error)
    (reads : Legacy.Result.ofJson payload = .ok legacy) (answering : answers method legacy = true)
    (converts : legacy.toCurrent = .ok current) : DecodesAlike method payload := by
  obtain ⟨own, stands⟩ := (answers_iff method legacy).mp answering
  have read : Legacy.Result.readAlone method payload = .ok legacy :=
    own ▸ Legacy.Result.read_alone_of_json reads
  obtain ⟨sent, changed⟩ := Legacy.Response.to_current_of_result "" "" "" "" .null converts
  have within := (decode_enveloped_of_error known filled fails).mpr ⟨legacy, reads, changed⟩
  have alone := (decode_bare_of_silent (silent_of_error fails)).mpr ⟨legacy, read, converts⟩
  obtain ⟨held, turned, ⟨⟨tip, missed⟩, -⟩ | ⟨-, holds⟩⟩ :=
    Legacy.Response.result_of_to_current rfl changed
  · exact absurd missed (stands tip)
  · rw [converts] at turned
    cases turned
    exact .of_both within alone holds

theorem alike_of_not_strays
    (known : method = Current.findIntersection ∨ method = Current.nextBlock)
    (filled : payload ≠ .null) (straight : ¬Strays method payload) :
    DecodesAlike method payload := by
  cases outcome : Current.Response.readResult method payload with
  | ok result =>
      have alone : decodeBare method payload = .ok result := by
        cases telling : result.isTelling with
        | true => exact decode_bare_of_telling outcome telling
        | false =>
            rw [decode_bare_of_silent (silent_of_result outcome telling)]
            by_contra differs
            exact straight (.vague result outcome telling fun legacy read converts =>
              differs ⟨legacy, read, converts⟩)
      exact .of_both (decode_enveloped_of_current known filled outcome) alone rfl
  | error error =>
      cases taken : Legacy.Result.ofJson payload with
      | error another =>
          refine .of_neither ?_ ?_
          · intro sent within
            obtain ⟨found, read, -⟩ := (decode_enveloped_of_error known filled outcome).mp within
            rw [taken] at read
            cases read
          · intro current alone
            obtain ⟨own, read, converts⟩ :=
              (decode_bare_of_silent (silent_of_error outcome)).mp alone
            exact straight (.hidden error another own current outcome taken read converts)
      | ok legacy =>
          by_cases converted : ∃ current, legacy.toCurrent = .ok current
          · obtain ⟨current, converts⟩ := converted
            refine alike_of_answer known filled outcome taken ?_ converts
            by_contra other
            rw [Bool.not_eq_true] at other
            exact straight (.stray error legacy current outcome taken other converts)
          · have stuck : ∀ current, legacy.toCurrent ≠ .ok current := not_exists.mp converted
            refine .of_neither ?_ ?_
            · intro sent within
              obtain ⟨found, read, changed⟩ :=
                (decode_enveloped_of_error known filled outcome).mp within
              rw [taken] at read
              cases read
              obtain ⟨current, converts, -⟩ := Legacy.Response.result_of_to_current rfl changed
              exact stuck current converts
            · intro current alone
              obtain ⟨own, read, converts⟩ :=
                (decode_bare_of_silent (silent_of_error outcome)).mp alone
              rw [Legacy.Result.alone_of_unconverted known taken stuck read] at converts
              exact stuck current converts

/-- Whatever a response can read as a result of the current schema it takes, even if the result
says nothing. A result is read alike in a response and alone unless the readings part over one
that says nothing, over a legacy answer to another method, or over one that hides the answer. -/
theorem decodes_alike_iff
    (known : method = Current.findIntersection ∨ method = Current.nextBlock)
    (filled : payload ≠ .null) :
    (∀ result, Current.Response.readResult method payload = .ok result →
      response.decode (enveloped method payload) =
        .ok ⟨"2.0", method, some result, none, .null⟩) ∧
      (DecodesAlike method payload ↔ ¬Strays method payload) := by
  refine ⟨fun result => decode_enveloped_of_current known filled, ?_, ?_⟩
  · intro alike strays
    exact not_alike_of_strays known filled strays alike
  · exact alike_of_not_strays known filled

end

/-- An intersection at the origin. -/
def atOrigin : Json := .object [("intersection", .text "origin")]

theorem decodes_alike_of_origin :
    atOrigin ≠ .null ∧ DecodesAlike Current.findIntersection atOrigin := by
  have filled : atOrigin ≠ .null := nofun
  refine ⟨filled, (decodes_alike_iff (.inl rfl) filled).2.mpr ?_⟩
  have reads : Current.Response.readResult Current.findIntersection atOrigin =
      .ok (.intersection ⟨some (.symbolic "origin"), none, none, .null⟩) := rfl
  intro strays
  cases strays with
  | vague result again silent differs =>
      rw [reads] at again
      cases again
      cases silent
  | stray error legacy current fails =>
      rw [reads] at fails
      cases fails
  | hidden error another legacy current fails =>
      rw [reads] at fails
      cases fails

/-- A step back to the origin in the legacy schema. -/
def rolledBack : Json := .object [("RollBackward", .object [("point", .text "origin"),
  ("tip", .object [("slot", .int 1), ("hash", .text "ab"), ("blockNo", .int 1)])])]

/-- In a response it is read as a result without a direction, and alone as what it is. What has
no field that either schema knows is taken in a response and refused alone. -/
theorem rolled_back_lost :
    ¬DecodesAlike Current.nextBlock rolledBack ∧
      ¬DecodesAlike Current.findIntersection (.object []) ∧
      response.decode (enveloped Current.nextBlock rolledBack) =
        .ok ⟨"2.0", Current.nextBlock, some (.block ⟨"", none, none, none⟩), none, .null⟩ ∧
      decodeBare Current.nextBlock rolledBack =
        .ok (.block ⟨Current.backward, some ⟨"ab", 1, some 1⟩, none, some (.symbolic "origin")⟩) := by
  have within : response.decode (enveloped Current.nextBlock rolledBack) =
      .ok ⟨"2.0", Current.nextBlock, some (.block ⟨"", none, none, none⟩), none, .null⟩ := rfl
  have alone : decodeBare Current.nextBlock rolledBack =
      .ok (.block ⟨Current.backward, some ⟨"ab", 1, some 1⟩, none, some (.symbolic "origin")⟩) :=
    rfl
  refine ⟨?_, ?_, within, alone⟩
  · rintro ⟨-, same⟩
    have holds := same _ _ within alone
    simp [Current.backward] at holds
  · rintro ⟨accepted, -⟩
    obtain ⟨result, reads⟩ := accepted.mp ⟨_, rfl⟩
    cases reads

end Adaptive

end NodeBridge
