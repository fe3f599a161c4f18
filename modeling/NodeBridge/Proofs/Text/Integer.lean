import NodeBridge.Proofs.Document.Numerals
import NodeBridge.Text.Integer

/-!
Whole numbers in running text. What is written is read back, as long as it has no more digits
than writing allows; and no number of more digits is ever read, with whatever blanks, signs,
scripts and low lines it is written.
-/

namespace NodeBridge.Text

/-- The number that a digit makes of the digits before it. -/
def appendDigit (value : Nat) (digit : Char) : Nat := 10 * value + (digit.toNat - '0'.toNat)

section

variable {char : Char} {chars : List Char} {value result : Nat}

theorem bounds_of_is_digit (digit : Json.isDigit char = true) :
    0x30 ≤ char.toNat ∧ char.toNat ≤ 0x39 := by
  simp only [Json.isDigit, Bool.and_eq_true, decide_eq_true_eq] at digit
  exact digit

theorem digit_value_of_is_digit (digit : Json.isDigit char = true) :
    digitValue? char = some (char.toNat - '0'.toNat) := by
  obtain ⟨lower, upper⟩ := bounds_of_is_digit digit
  -- The plain digits come first of all scripts.
  have first : zeroCodes.find? (fun first => first ≤ char.toNat && char.toNat < first + 10) =
      some 0x30 := by
    unfold zeroCodes
    rw [List.find?_cons_of_pos]
    simp only [Bool.and_eq_true, decide_eq_true_eq]
    omega
  rw [digitValue?, first]
  rfl

theorem low_line_of_is_digit (digit : Json.isDigit char = true) : char ≠ '_' := by
  rintro rfl
  cases digit

theorem read_digits_of_digits (digits : ∀ char ∈ chars, Json.isDigit char = true) :
    readDigits value chars = some (chars.foldl appendDigit value) := by
  induction chars generalizing value with
  | nil => rfl
  | cons char chars induction =>
      have digit := digits char List.mem_cons_self
      have rest : readDigits (appendDigit value char) chars =
          some (chars.foldl appendDigit (appendDigit value char)) :=
        induction fun other member => digits other (List.mem_cons_of_mem _ member)
      have step : readDigits value (char :: chars) =
          (digitValue? char).bind fun digit => readDigits (10 * value + digit) chars := by
        rw [readDigits.eq_def]
        split
        · next none => cases none
        · next same =>
            cases same
            exact absurd rfl (low_line_of_is_digit digit)
        · next same =>
            cases same
            rfl
      rw [step, digit_value_of_is_digit digit]
      exact rest

theorem filter_low_line_of_digits (digits : ∀ char ∈ chars, Json.isDigit char = true) :
    chars.filter (· ≠ '_') = chars := by
  rw [List.filter_eq_self]
  intro char member
  simp [low_line_of_is_digit (digits char member)]

theorem read_natural_natural_digits (value : Nat)
    (few : (naturalDigits value).length ≤ digitLimit) :
    readNatural (naturalDigits value) = some value := by
  have digits : ∀ char ∈ naturalDigits value, Json.isDigit char = true :=
    fun char member => is_digit_of_mem_natural_digits member
  have whole : (naturalDigits value).foldl appendDigit 0 = value :=
    digits_value_natural_digits value
  cases written : naturalDigits value with
  | nil => rcases natural_digits_cases value with zero | ⟨first, rest, some, -⟩ <;> simp_all
  | cons first rest =>
      rw [written] at digits few whole
      have later : ∀ char ∈ rest, Json.isDigit char = true := fun char member =>
        digits char (List.mem_cons_of_mem _ member)
      have short : ¬digitLimit < ((first :: rest).filter (· ≠ '_')).length := by
        rw [filter_low_line_of_digits digits]
        exact Nat.not_lt.mpr few
      rw [readNatural, if_neg short, digit_value_of_is_digit (digits first List.mem_cons_self)]
      show readDigits (first.toNat - '0'.toNat) rest = some value
      rw [read_digits_of_digits later, ← whole, List.foldl_cons, appendDigit, Nat.mul_zero,
        Nat.zero_add]

theorem is_padding_of_is_digit (digit : Json.isDigit char = true) : isPadding char = false := by
  obtain ⟨lower, upper⟩ := bounds_of_is_digit digit
  have apart : ∀ range ∈ blankRanges, range.2 < 0x30 ∨ 0x39 < range.1 := by decide
  have visible : isBlank char = false := by
    rw [isBlank, Bool.eq_false_iff, ne_eq, in_ranges_iff]
    rintro ⟨range, member, first, last⟩
    have other := apart range member
    omega
  rw [isPadding, visible, Bool.false_and]

theorem trim_padding_of_none (visible : ∀ char ∈ chars, isPadding char = false) :
    trimPadding chars = chars := by
  have kept (input : List Char) (all : ∀ char ∈ input, isPadding char = false) :
      input.dropWhile isPadding = input := by
    cases input with
    | nil => rfl
    | cons char input => simp [all char List.mem_cons_self]
  unfold trimPadding
  rw [kept chars visible, kept chars.reverse, List.reverse_reverse]
  intro char member
  exact visible char (List.mem_reverse.mp member)

theorem read_integer_of_minus {rest : List Char} (trimmed : trimPadding chars = '-' :: rest) :
    readInteger chars = (readNatural rest).map fun number : Nat => -(number : Int) := by
  simp only [readInteger, trimmed]
  cases readNatural rest <;> rfl

theorem read_integer_of_unsigned (minus : chars.head? ≠ some '-') (plus : chars.head? ≠ some '+')
    (trimmed : trimPadding chars = chars) :
    readInteger chars = (readNatural chars).map fun number : Nat => (number : Int) := by
  rw [readInteger, trimmed]
  split
  · exact absurd rfl minus
  · exact absurd rfl plus
  · cases readNatural chars <;> rfl

/-- A whole number is read as it was written, if it can be written. -/
theorem read_integer_integer_digits {value : Int} (short : isTooLong value = false) :
    readInteger (integerDigits value) = some value := by
  have few := length_natural_digits_le short
  have read := read_natural_natural_digits value.natAbs few
  have trimmed : trimPadding (integerDigits value) = integerDigits value := by
    apply trim_padding_of_none
    intro char member
    cases value with
    | ofNat value => exact is_padding_of_is_digit (is_digit_of_mem_natural_digits member)
    | negSucc value =>
        rcases List.mem_cons.mp member with rfl | digit
        · decide
        · exact is_padding_of_is_digit (is_digit_of_mem_natural_digits digit)
  cases value with
  | negSucc value =>
      rw [read_integer_of_minus trimmed]
      exact Option.map_eq_some_iff.mpr ⟨value + 1, read, rfl⟩
  | ofNat value =>
      have unsigned (sign : Char) (other : Json.isDigit sign = false) :
          (naturalDigits value).head? ≠ some sign := by
        intro first
        have digit := is_digit_of_mem_natural_digits (List.mem_of_mem_head? first)
        rw [other] at digit
        cases digit
      show readInteger (naturalDigits value) = _
      rw [read_integer_of_unsigned (unsigned '-' rfl) (unsigned '+' rfl) trimmed]
      exact Option.map_eq_some_iff.mpr ⟨value, read, rfl⟩

/-! No number of too many digits is read. -/

theorem lt_of_digit {digit bound count : Nat} (small : digit < 10)
    (below : bound < Nat.pow 10 count * (10 * value + digit + 1)) :
    bound < Nat.pow 10 (count + 1) * (value + 1) := by
  have power : Nat.pow 10 (count + 1) = Nat.pow 10 count * 10 := rfl
  have step : 10 * value + digit + 1 ≤ 10 * (value + 1) := by omega
  rw [power, Nat.mul_assoc]
  exact below.trans_le (Nat.mul_le_mul_left _ step)

theorem low_line_of_digit_value (found : digitValue? char = some value) : char ≠ '_' := by
  rintro rfl
  cases found

theorem lt_of_read_digits (read : readDigits value chars = some result) :
    result < Nat.pow 10 (chars.filter (· ≠ '_')).length * (value + 1) := by
  fun_induction readDigits value chars generalizing result with
  | case1 value =>
      cases read
      simp
  | case2 value char rest induction | case3 value char rest _ induction =>
      obtain ⟨digit, found, later⟩ := Option.bind_eq_some_iff.mp read
      have counted : ((char :: rest).filter (· ≠ '_')).length =
          (rest.filter (· ≠ '_')).length + 1 := by simp [low_line_of_digit_value found]
      have shorter := lt_of_digit (digit_value_lt found) (induction digit later)
      rw [← counted] at shorter
      exact shorter

theorem lt_of_read_natural (read : readNatural chars = some result) :
    result < Nat.pow 10 digitLimit := by
  cases chars with
  | nil => cases read
  | cons char rest =>
      rw [readNatural] at read
      split at read
      · cases read
      · next few =>
          simp only [Option.bind_eq_bind, Option.bind_eq_some_iff] at read
          obtain ⟨digit, found, later⟩ := read
          have small := digit_value_lt found
          have below := lt_of_read_digits later
          have counted : ((char :: rest).filter (· ≠ '_')).length =
              (rest.filter (· ≠ '_')).length + 1 := by simp [low_line_of_digit_value found]
          rw [counted] at few
          -- With the limit in its place the power would be computed.
          generalize digitLimit = limit at few ⊢
          calc
            result < Nat.pow 10 (rest.filter (· ≠ '_')).length * (digit + 1) := below
            _ ≤ Nat.pow 10 (rest.filter (· ≠ '_')).length * 10 :=
              Nat.mul_le_mul_left _ (by omega)
            _ = Nat.pow 10 ((rest.filter (· ≠ '_')).length + 1) := rfl
            _ ≤ Nat.pow 10 limit := Nat.pow_le_pow_right (by decide) (Nat.le_of_not_lt few)

/-- A whole number that was read can be written. -/
theorem short_of_read_integer {value : Int} (read : readInteger chars = some value) :
    isTooLong value = false := by
  have magnitude : ∃ digits, readNatural digits = some value.natAbs := by
    unfold readInteger at read
    split at read
    all_goals
      simp only [Option.bind_eq_bind, Option.map_eq_some_iff, Option.bind_eq_some_iff] at read
      obtain ⟨number, ⟨digits, found, same⟩, rfl⟩ := read
      cases same
      exact ⟨_, by simpa using found⟩
  obtain ⟨digits, found⟩ := magnitude
  exact decide_eq_false (Nat.not_le_of_lt (lt_of_read_natural found))

end

end NodeBridge.Text
