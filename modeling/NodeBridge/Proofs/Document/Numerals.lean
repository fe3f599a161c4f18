import Mathlib.Data.List.TakeWhile
import NodeBridge.Json.Reader

/-!
Whole numbers are read as they were written. A number is written without leading zeros, so the
reader takes all of its digits, and it takes no more if no digit, point or exponent follows. A
number is refused for its length only if it could not be written either.
-/

namespace NodeBridge

namespace Text

theorem is_digit_of_mem_natural_digits {value : Nat} {char : Char}
    (member : char ∈ naturalDigits value) : Json.isDigit char = true := by
  have digit := Nat.isDigit_of_mem_toDigits (by decide) (by decide) member
  simp only [Char.isDigit, Bool.and_eq_true, decide_eq_true_eq] at digit
  simp only [Json.isDigit, Bool.and_eq_true, decide_eq_true_eq]
  exact digit

theorem digits_value_natural_digits (value : Nat) :
    Json.digitsValue (naturalDigits value) = value := by
  unfold Json.digitsValue naturalDigits
  rw [← Nat.ofDigitChars_eq_foldl]
  exact Nat.ofDigitChars_ten_toDigits

/-- A number is written with a zero alone, or its first digit is none. -/
theorem natural_digits_cases (value : Nat) :
    naturalDigits value = ['0'] ∨
      ∃ first rest, naturalDigits value = first :: rest ∧ first ≠ '0' := by
  induction value using Nat.strong_induction_on with
  | _ value induction =>
      unfold naturalDigits at induction ⊢
      by_cases small : value < 10
      · rw [Nat.toDigits_of_lt_base small]
        by_cases zero : value.digitChar = '0'
        · exact .inl (by rw [zero])
        · exact .inr ⟨value.digitChar, [], rfl, zero⟩
      · rw [Nat.toDigits_of_base_le (by decide) (by omega)]
        rcases induction (value / 10) (by omega) with zero | ⟨first, rest, digits, full⟩
        · have none : value / 10 = 0 := by
            rw [← digits_value_natural_digits (value / 10), naturalDigits, zero]
            rfl
          omega
        · rw [digits]
          exact .inr ⟨first, _, rfl, full⟩

theorem length_natural_digits_le {value : Int} (short : isTooLong value = false) :
    (naturalDigits value.natAbs).length ≤ digitLimit := by
  have positive : 0 < digitLimit := by decide
  have below := of_decide_eq_false short
  -- With the limit in its place the power would be computed.
  generalize digitLimit = limit at positive below ⊢
  exact (Nat.length_toDigits_le_iff (by decide) positive).mpr (Nat.lt_of_not_le below)

end Text

namespace Json

/-- Whether nothing follows that could belong to a number before it. -/
def EndsNumber (rest : List Char) : Prop :=
  ∀ char ∈ rest.head?, isDigit char = false ∧ char ≠ '.' ∧ char ≠ 'e' ∧ char ≠ 'E'

section

variable {rest : List Char}

theorem read_whole_natural_digits (value : Nat) (ends : EndsNumber rest) :
    readWhole (Text.naturalDigits value ++ rest) = some (Text.naturalDigits value, rest) := by
  rcases Text.natural_digits_cases value with zero | ⟨first, digits, written, full⟩
  · rw [zero]
    rfl
  · have all : ∀ char ∈ first :: digits, isDigit char = true := by
      intro char member
      rw [← written] at member
      exact Text.is_digit_of_mem_natural_digits member
    have later : ∀ char ∈ digits, isDigit char = true := fun char member =>
      all char (List.mem_cons_of_mem _ member)
    have stops : rest.takeWhile isDigit = [] ∧ rest.dropWhile isDigit = rest := by
      cases rest with
      | nil => exact ⟨rfl, rfl⟩
      | cons char rest =>
          have other : isDigit char = false := (ends char rfl).1
          simp [other]
    rw [written, List.cons_append, readWhole.eq_def]
    split
    · next same =>
        cases same
        exact absurd rfl full
    · next same =>
        cases same
        rw [if_pos (all first List.mem_cons_self), List.takeWhile_append_of_pos later,
          List.dropWhile_append_of_pos later, stops.1, stops.2, List.append_nil]
    · next none => cases none

theorem read_magnitude_natural_digits (negative : Bool) (value : Nat) (ends : EndsNumber rest)
    (few : (Text.naturalDigits value).length ≤ Text.digitLimit) :
    readMagnitude negative (Text.naturalDigits value ++ rest) =
      some (.int (if negative then -(value : Int) else value), rest) := by
  have fraction : readFraction rest = ([], rest) := by
    cases rest with
    | nil => rfl
    | cons char rest =>
        unfold readFraction
        split
        · next same =>
            cases same
            exact absurd rfl (ends '.' rfl).2.1
        · rfl
  have exponent : readExponent rest = none := by
    cases rest with
    | nil => rfl
    | cons char rest =>
        obtain ⟨-, -, small, large⟩ := ends char rfl
        simp [readExponent, small, large]
  unfold readMagnitude
  rw [read_whole_natural_digits value ends]
  simp only [Option.bind_eq_bind, Option.bind_some, fraction, exponent, List.isEmpty_nil, if_true,
    List.append_nil, Text.digits_value_natural_digits, Nat.not_lt.mpr few, if_false]

/-- A whole number is read as it was written, if it can be written. -/
theorem read_number_integer_digits {value : Int} (short : Text.isTooLong value = false)
    (ends : EndsNumber rest) :
    readNumber (Text.integerDigits value ++ rest) = some (.int value, rest) := by
  have few := Text.length_natural_digits_le short
  cases value with
  | ofNat value =>
      have positive : readNumber (Text.naturalDigits value ++ rest) =
          readMagnitude false (Text.naturalDigits value ++ rest) := by
        unfold readNumber
        split
        · next sign =>
            rcases Text.natural_digits_cases value with zero | ⟨first, digits, written, -⟩
            · rw [zero] at sign
              cases sign
            · have digit : isDigit first = true :=
                Text.is_digit_of_mem_natural_digits (written ▸ List.mem_cons_self)
              rw [written] at sign
              cases sign
              cases digit
        · rfl
      exact positive.trans (read_magnitude_natural_digits false value ends few)
  | negSucc value => exact read_magnitude_natural_digits true (value + 1) ends few

end

end Json

end NodeBridge
