import Mathlib.Order.Basic
import NodeBridge.Proofs.Document.Read
import NodeBridge.Query.Submission

/-!
Which replies pass for the success of a submission. In the legacy schema a result that holds no
complaint passes, whatever else it is; in the current schema an error that is no object is looked
over, and a result without an id passes as if its id were the empty text.
-/

namespace NodeBridge.Submission

/-- A result of the legacy schema that tells of success: the word by itself, a field of that name,
or an empty list of complaints. -/
def TellsSuccess : Json → Prop
  | .text word => word = "SubmitSuccess"
  | .object fields =>
      Json.has fields "SubmitSuccess" = true ∨ fields.lookup "SubmitFail" = some (.list [])
  | _ => False

/-- A result of the legacy schema that holds no complaint. -/
def IsUnopposed : Json → Prop
  | .object fields =>
      fields.lookup "SubmitFail" = none ∨ fields.lookup "SubmitFail" = some (.list [])
  | _ => True

/-- A result of the legacy schema that tells neither of success nor of failure. -/
def IsMute : Json → Prop
  | .text word => word ≠ "SubmitSuccess"
  | .object fields =>
      Json.has fields "SubmitSuccess" = false ∧ Json.has fields "SubmitFail" = false
  | _ => True

/-- An envelope of the current schema that tells of success: it has no error, and its result names
the transaction by an id that is not empty. -/
def Confirms (envelope : Fields) (id : String) : Prop :=
  Json.get envelope "error" = .null ∧ id ≠ "" ∧
    ∃ result transaction, Json.get envelope "result" = .object result ∧
      Json.get result "transaction" = .object transaction ∧
      Json.get transaction "id" = .text id

/-- The id that the result of an envelope names; a missing one is as good as an empty text. -/
def resultId? (envelope : Fields) : Option String :=
  match Json.get envelope "result" with
  | .object result =>
      match Json.get result "transaction" with
      | .null => some ""
      | .object transaction =>
          match Json.get transaction "id" with
          | .null => some ""
          | .text id => some id
          | _ => none
      | _ => none
  | _ => none

section

variable {reply : Reply} {envelope : Fields} {id : String} {failure : QueryFailure}

theorem answer_ok_iff (reads : reply.envelope = .ok envelope) {submission : Submission} :
    answer reply = .ok submission ↔ read envelope = .ok submission := by
  rw [answer, reads]
  dsimp only [bind, Except.bind]
  cases read envelope <;> simp [Except.mapError]

theorem answer_legacy_of_envelope (reads : reply.envelope = .ok envelope) :
    answerLegacy reply = readLegacy envelope := by
  rw [answerLegacy, reads]
  rfl

theorem answers_of_failure (fails : reply.envelope = .error failure) :
    answer reply = .error failure ∧ answerLegacy reply = .error failure := by
  rw [answer, answerLegacy, fails]
  exact ⟨rfl, rfl⟩

theorem read_legacy_ok_iff :
    readLegacy envelope = .ok () ↔ IsUnopposed (Json.get envelope "result") := by
  unfold readLegacy IsUnopposed
  cases Json.get envelope "result" with
  | object result =>
      dsimp only
      cases result.lookup "SubmitFail" with
      | none => simp
      | some complaint =>
          cases complaint with
          | list items => cases items <;> simp
          | _ => simp
  | _ => simp

/-- A result without complaints tells of success or says nothing. -/
theorem unopposed_iff {result : Json} :
    IsUnopposed result ∧ ¬TellsSuccess result ↔ IsMute result := by
  cases result with
  | object fields =>
      dsimp only [IsUnopposed, TellsSuccess, IsMute, Json.has]
      cases fields.lookup "SubmitFail" <;> cases fields.lookup "SubmitSuccess" <;> simp
  | text word => exact and_iff_right trivial
  | _ => exact ⟨fun _ => trivial, fun _ => ⟨trivial, not_false⟩⟩

theorem read_accepted_iff :
    read envelope = .ok (.accepted id) ↔
      (∀ error, Json.get envelope "error" ≠ .object error) ∧ resultId? envelope = some id := by
  unfold read resultId?
  split
  · next error held =>
      have refused : ¬∀ error, Json.get envelope "error" ≠ .object error :=
        fun none => none error held
      simp only [refused, false_and, iff_false, bind_eq_ok]
      rintro ⟨code, -, message, -, same⟩
      cases same
  · next result held none =>
      rw [held, and_iff_right none]
      dsimp only
      cases Json.get result "transaction" with
      | object transaction =>
          dsimp only [Decode.object, bind, Except.bind]
          cases Json.get transaction "id" <;> simp [Decode.text]
      | null => simp [Decode.object, Decode.text, Json.get, bind, Except.bind]
      | _ => simp [Decode.object, bind, Except.bind]
  · next noError noResult =>
      cases held : Json.get envelope "result" with
      | object fields => exact absurd held (noResult fields)
      | _ => simp

/-- Whoever names a transaction without an error beside it is believed, and whoever is believed
without that has an error that is no object or names no transaction. -/
theorem confirms_iff (accepted : read envelope = .ok (.accepted id)) :
    Confirms envelope id ↔ Json.get envelope "error" = .null ∧ id ≠ "" := by
  refine ⟨fun confirms => ⟨confirms.1, confirms.2.1⟩, fun ⟨free, named⟩ => ⟨free, named, ?_⟩⟩
  have found := (read_accepted_iff.mp accepted).2
  unfold resultId? at found
  split at found
  · next result held =>
      split at found
      · cases found
        exact absurd rfl named
      · next transaction inner =>
          split at found
          · cases found
            exact absurd rfl named
          · next other text =>
              cases found
              exact ⟨result, transaction, held, inner, text⟩
          · cases found
      · cases found
  · cases found

theorem accepted_of_confirms (confirms : Confirms envelope id) :
    read envelope = .ok (.accepted id) := by
  obtain ⟨free, -, result, transaction, held, inner, text⟩ := confirms
  refine read_accepted_iff.mpr ⟨by simp [free], ?_⟩
  simp [resultId?, held, inner, text]

/-- Which replies pass for a success. Where there is no envelope, neither schema reports one. A
reply of the legacy schema passes unless its result holds complaints, and it passes without a word
of success exactly if the result says nothing at all. A reply of the current schema passes if its
result names a transaction, be it by no text at all, and no object is its error; it passes without
a confirmation exactly if that name is empty or there is an error of another kind. -/
theorem passes_for_success_iff (reply : Reply) :
    (∀ failure, reply.envelope = .error failure →
      answerLegacy reply = .error failure ∧ answer reply = .error failure) ∧
    ∀ envelope, reply.envelope = .ok envelope →
      (answerLegacy reply = .ok () ↔ IsUnopposed (Json.get envelope "result")) ∧
      (answerLegacy reply = .ok () ∧ ¬TellsSuccess (Json.get envelope "result") ↔
        IsMute (Json.get envelope "result")) ∧
      ∀ id, (Confirms envelope id → answer reply = .ok (.accepted id)) ∧
        (answer reply = .ok (.accepted id) ↔
          (∀ error, Json.get envelope "error" ≠ .object error) ∧
            resultId? envelope = some id) ∧
        (answer reply = .ok (.accepted id) ∧ ¬Confirms envelope id ↔
          (∀ error, Json.get envelope "error" ≠ .object error) ∧
            resultId? envelope = some id ∧
            (Json.get envelope "error" ≠ .null ∨ id = "")) := by
  refine ⟨fun failure fails => (answers_of_failure fails).symm, fun envelope reads => ?_⟩
  rw [answer_legacy_of_envelope reads, read_legacy_ok_iff]
  refine ⟨Iff.rfl, unopposed_iff, fun id => ?_⟩
  rw [answer_ok_iff reads]
  refine ⟨accepted_of_confirms, read_accepted_iff, ?_⟩
  rw [← and_assoc, ← read_accepted_iff]
  apply and_congr_right
  intro accepted
  rw [confirms_iff accepted, not_and_or, not_not]

end

/-- A fault of the legacy schema, which has no result. -/
def faultReply : Reply :=
  ⟨200, "\x7b\"type\":\"jsonwsp/fault\",\"fault\":" ++
    "\x7b\"code\":\"client\",\"string\":\"invalid transaction\"\x7d\x7d"⟩

def faultEnvelope : Fields :=
  [("type", .text "jsonwsp/fault"),
    ("fault", .object [("code", .text "client"), ("string", .text "invalid transaction")])]

theorem envelope_fault_reply : faultReply.envelope = .ok faultEnvelope := by decide +kernel

/-- A confirmation of the current schema. -/
def confirmation : Reply :=
  ⟨200, "\x7b\"result\":\x7b\"transaction\":\x7b\"id\":\"ab\"\x7d\x7d\x7d"⟩

def confirmationEnvelope : Fields :=
  [("result", .object [("transaction", .object [("id", .text "ab")])])]

theorem envelope_confirmation : confirmation.envelope = .ok confirmationEnvelope := by
  decide +kernel

/-- A reply without an envelope, a confirmation, and a fault. -/
theorem passes_for_success_iff_of_replies :
    answer ⟨500, ""⟩ = .error (.status 500) ∧ answer confirmation = .ok (.accepted "ab") ∧
      answerLegacy faultReply = .ok () := by
  have broken := ((passes_for_success_iff ⟨500, ""⟩).1 (.status 500) rfl).2
  have confirmed :=
    (((passes_for_success_iff confirmation).2 _ envelope_confirmation).2.2 "ab").1
      ⟨rfl, by decide, _, _, rfl, rfl, rfl⟩
  have passing := ((passes_for_success_iff faultReply).2 _ envelope_fault_reply).1.mpr trivial
  exact ⟨broken, confirmed, passing⟩

/-- A fault passes for a success of the legacy schema, while every other query is refused over it.
In the current schema a result without a transaction passes, and so does one beside an error that
is a text. -/
theorem failures_pass_for_success :
    answerLegacy faultReply = .ok () ∧
    Reply.resultOf faultEnvelope = .error (.refused "invalid transaction" 0
      (.object [("code", .text "client"), ("string", .text "invalid transaction")])) ∧
    answer ⟨200, "\x7b\"result\":\x7b\x7d\x7d"⟩ = .ok (.accepted "") ∧
    answer ⟨200, "\x7b\"error\":\"rejected\",\"result\":" ++
      "\x7b\"transaction\":\x7b\"id\":\"ab\"\x7d\x7d\x7d"⟩ = .ok (.accepted "ab") := by
  refine ⟨?_, by decide +kernel, by decide +kernel, by decide +kernel⟩
  rw [answer_legacy_of_envelope envelope_fault_reply]
  rfl

end NodeBridge.Submission
