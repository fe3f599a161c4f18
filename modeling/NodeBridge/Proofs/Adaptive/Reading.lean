import NodeBridge.Adaptive.Document
import NodeBridge.Proofs.Document.Read

/-!
Reading under two schemas. A document that looks like one of the current schema is read as such,
and any other one is read under the legacy schema and converted.
-/

namespace NodeBridge.Adaptive.Reading

variable {α β : Type} {reading : Reading α β} {json : Json}

theorem decode_of_current {value : α} (reads : reading.current json = .ok value)
    (fits : reading.fitsCurrent value json = true) : reading.decode json = .ok value := by
  simp only [decode, attempt, reads, fits, if_true]

/-- What is no document of the current schema is read under the legacy one. -/
theorem decode_of_legacy {value : β} {error : DecodeError}
    (fails : attempt reading.kind .current reading.current reading.fitsCurrent json = .error error)
    (reads : reading.legacy json = .ok value) (fits : reading.fitsLegacy value json = true) :
    reading.decode json = reading.convert value := by
  have read : attempt reading.kind .legacy reading.legacy reading.fitsLegacy json = .ok value := by
    simp only [attempt, reads, fits, if_true]
  simp only [decode, fails, read]

/-- What fits neither schema is refused for both. -/
theorem decode_of_neither {current legacy : DecodeError}
    (first : attempt reading.kind .current reading.current reading.fitsCurrent json =
      .error current)
    (second : attempt reading.kind .legacy reading.legacy reading.fitsLegacy json =
      .error legacy) :
    reading.decode json = .error (.decode (.incompatible reading.kind current legacy)) := by
  simp only [decode, first, second]

theorem attempt_eq_ok_iff {γ : Type} {kind : DocumentKind} {schema : Schema}
    {read : Json → Decoded γ} {fits : γ → Json → Bool} {value : γ} :
    attempt kind schema read fits json = .ok value ↔
      read json = .ok value ∧ fits value json = true := by
  unfold attempt
  cases read json with
  | error error => simp
  | ok found =>
      dsimp only
      split
      · next fits => simpa using fun same : found = value => same ▸ fits
      · next unfit =>
          refine iff_of_false nofun ?_
          rintro ⟨same, fits⟩
          cases same
          exact unfit fits

/-- A document is read under one of the schemas. -/
theorem decode_cases {value : α} (decodes : reading.decode json = .ok value) :
    reading.current json = .ok value ∨
      ∃ legacy, reading.legacy json = .ok legacy ∧ reading.convert legacy = .ok value := by
  unfold decode at decodes
  split at decodes
  · next found =>
      cases decodes
      exact .inl (attempt_eq_ok_iff.mp found).1
  · split at decodes
    · next legacy found => exact .inr ⟨legacy, (attempt_eq_ok_iff.mp found).1, decodes⟩
    · cases decodes

/-- What does not look like a document of the current schema can only be read under the legacy
one. -/
theorem decode_of_unfit {value : α}
    (unfit : ∀ other, reading.current json = .ok other → reading.fitsCurrent other json = false) :
    reading.decode json = .ok value ↔
      ∃ legacy, (reading.legacy json = .ok legacy ∧ reading.fitsLegacy legacy json = true) ∧
        reading.convert legacy = .ok value := by
  unfold decode
  split
  · next other found =>
      obtain ⟨reads, fits⟩ := attempt_eq_ok_iff.mp found
      rw [unfit other reads] at fits
      cases fits
  · have legacy (found : β) :
        attempt reading.kind .legacy reading.legacy reading.fitsLegacy json = .ok found ↔
          reading.legacy json = .ok found ∧ reading.fitsLegacy found json = true :=
      attempt_eq_ok_iff
    simp only [← legacy]
    cases attempt reading.kind .legacy reading.legacy reading.fitsLegacy json <;> simp

end NodeBridge.Adaptive.Reading
