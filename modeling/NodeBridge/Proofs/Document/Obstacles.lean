import NodeBridge.Legacy.Block
import NodeBridge.Proofs.Document.Printed

/-!
What a computation of several steps fails over. Each step has its complaints, and the
computation fails over the first of all of them, in the order of the steps. Where there is
nothing to complain of it comes to a value.
-/

namespace NodeBridge

section

variable {ε α β : Type}

/-- A computation fails over the first of some complaints, and only if there are any. -/
def FailsOver (complaints : List ε) (outcome : Except ε α) : Prop :=
  ∀ error, outcome = .error error ↔ complaints.head? = some error

/-- The one complaint of a step that fails. -/
def complaintsOf : Except ε α → List ε
  | .ok _ => []
  | .error error => [error]

theorem fails_over_ok (value : α) : FailsOver [] (.ok value : Except ε α) := by
  intro error
  simp

theorem fails_over_own (outcome : Except ε α) : FailsOver (complaintsOf outcome) outcome := by
  intro error
  cases outcome <;> simp [complaintsOf]

theorem FailsOver.andThen {complaints others : List ε} {first : Except ε α}
    {next : α → Except ε β} (stops : FailsOver complaints first)
    (later : ∀ value, first = .ok value → FailsOver others (next value)) :
    FailsOver (complaints ++ others) (first >>= next) := by
  cases first with
  | error found =>
      have head : complaints.head? = some found := (stops found).mp rfl
      intro error
      simp [bind, Except.bind, List.head?_append, head]
  | ok value =>
      have none : complaints = [] := by
        cases complaints with
        | nil => rfl
        | cons complaint complaints => cases (stops complaint).mpr rfl
      rw [none, List.nil_append]
      exact later value rfl

theorem FailsOver.converted {complaints : List DecodeError} {outcome : Decoded α}
    (stops : FailsOver complaints outcome) :
    FailsOver (complaints.map ConversionError.decode) outcome.converted := by
  intro error
  rw [List.head?_map, Option.map_eq_some_iff]
  cases outcome with
  | error found =>
      have head : complaints.head? = some found := (stops found).mp rfl
      simp [Decoded.converted, Except.mapError, head]
  | ok value =>
      have none : complaints.head? = none := by
        cases complaints with
        | nil => rfl
        | cons complaint complaints => cases (stops complaint).mpr rfl
      simp [Decoded.converted, Except.mapError, none]

end

end NodeBridge
