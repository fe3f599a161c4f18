import NodeBridge.Proofs.Text.Bits

/-!
What strict readers of bytes take. Base 64 is digits of the alphabet with padding behind them:
up to a whole group, or any number of signs where all groups are whole already. In hexadecimal,
gaps of white space divide a text into runs of pairs of digits. All other texts are refused,
whatever characters they hold. The bytes are those that have the bits of the digits; what a last
digit of base 64 has too much is dropped.
-/

namespace NodeBridge.Text

/-! Digits in their alphabets. -/

theorem not_le_of_beyond {char bound : Char} (beyond : bound.toNat < char.toNat) :
    ¬char ≤ bound := Nat.not_le_of_gt beyond

theorem ascii_of_base64_value {char : Char} {value : Nat}
    (found : base64Value? char = some value) : char.toNat < 128 := by
  by_contra beyond
  have above (bound : Char) (ascii : bound.toNat < 128) : ¬char ≤ bound :=
    not_le_of_beyond (by omega)
  have plus : char ≠ '+' := by
    rintro rfl
    exact beyond (by decide)
  have slash : char ≠ '/' := by
    rintro rfl
    exact beyond (by decide)
  have none : base64Value? char = none := by
    simp only [base64Value?, above 'Z' (by decide), above 'z' (by decide), above '9' (by decide),
      plus, slash, and_false, if_false]
  rw [none] at found
  cases found

theorem base64_digit_of_ascii :
    ∀ code < 128, ∀ value ∈ base64Value? (Char.ofNat code),
      base64Digit value = Char.ofNat code ∧ value < 64 := by
  decide +kernel

-- All digits are below 128, so that it is enough to compare the tables there.
theorem base64_digit_of_value {char : Char} {value : Nat}
    (found : base64Value? char = some value) : base64Digit value = char ∧ value < 64 := by
  have same := base64_digit_of_ascii char.toNat (ascii_of_base64_value found) value
  rw [Char.ofNat_toNat] at same
  exact same found

/-- Digits of either case. -/
def hexSigns : List Char := "0123456789abcdefABCDEF".toList

def isHexDigit (char : Char) : Bool := hexSigns.contains char

theorem is_hex_digit_of_ascii :
    ∀ code < 128, isHexDigit (Char.ofNat code) = (hexValue? (Char.ofNat code)).isSome := by
  decide +kernel

theorem hex_signs_plain :
    hexSigns.all (fun char => decide (char.toNat < 128) && !isGap char) = true := by
  decide +kernel

theorem plain_of_hex_digit {char : Char} (digit : isHexDigit char = true) :
    char.toNat < 128 ∧ isGap char = false := by
  have plain := List.all_eq_true.mp hex_signs_plain char (List.contains_iff_mem.mp digit)
  simpa using plain

theorem is_some_hex_value (char : Char) : (hexValue? char).isSome = isHexDigit char := by
  by_cases ascii : char.toNat < 128
  · have same := is_hex_digit_of_ascii char.toNat ascii
    rw [Char.ofNat_toNat] at same
    exact same.symm
  · have above (bound : Char) (small : bound.toNat < 128) : ¬char ≤ bound :=
      not_le_of_beyond (by omega)
    have absent : isHexDigit char = false :=
      Bool.eq_false_iff.mpr fun digit => ascii (plain_of_hex_digit digit).1
    have none : hexValue? char = none := by
      simp only [hexValue?, above '9' (by decide), above 'f' (by decide), above 'F' (by decide),
        and_false, if_false]
    rw [absent, none]
    rfl

/-! Base 64. -/

/-- Padding up to a whole group, or idle padding behind whole groups. -/
def IsFilled (idle : Bool) (digits padding : Nat) : Prop :=
  IsWhole digits padding ∨ digits % 4 = 0 ∧ (0 < digits ∨ idle = true)

theorem eq_replicate_of_padding {chars : List Char} (all : chars.all (· = '=') = true) :
    chars = padded [] chars.length := by
  rw [List.all_eq_true] at all
  exact List.eq_replicate_of_mem fun char member => of_decide_eq_true (all char member)

theorem padded_cons (digit : Nat) (digits : List Nat) (padding : Nat) :
    padded (digit :: digits) padding = base64Digit digit :: padded digits padding := rfl

theorem carries_nothing : Carries [] [] := ⟨[], by decide, rfl⟩

/-- What is read is digits with padding behind them, which carry the bytes. -/
theorem padded_of_groups (idle : Bool) {chars : List Char} {bytes : Bytes}
    (reads : decodeBase64Groups idle chars = some bytes) :
    ∃ digits padding, chars = padded digits padding ∧ IsFilled idle digits.length padding ∧
      Carries digits bytes := by
  fun_induction decodeBase64Groups idle chars generalizing bytes with
  | case1 =>
      cases reads
      exact ⟨[], 0, rfl, .inl ⟨rfl, by decide⟩, carries_nothing⟩
  | case2 idle first second third fourth rest padding =>
      cases reads
      obtain ⟨after, all⟩ := Bool.and_eq_true_iff.mp padding
      exact ⟨[], _, eq_replicate_of_padding all, .inr ⟨rfl, .inr after⟩, carries_nothing⟩
  | case3 idle first second third fourth rest other induction =>
      simp only [Option.bind_eq_bind, Option.bind_eq_some_iff] at reads
      obtain ⟨one, foundOne, two, foundTwo, reads⟩ := reads
      obtain ⟨signOne, -⟩ := base64_digit_of_value foundOne
      obtain ⟨signTwo, smallTwo⟩ := base64_digit_of_value foundTwo
      rw [← signOne, ← signTwo]
      -- A sign in the third place needs another one behind it, and both end the text.
      split at reads
      · next third =>
          split at reads
          · next last =>
              cases reads
              rw [third, last.1, last.2]
              exact ⟨[one, two], 2, rfl, .inl (by simp [IsWhole]), carries_two one two smallTwo⟩
          · cases reads
      · simp only [Option.bind_eq_some_iff] at reads
        obtain ⟨three, foundThree, reads⟩ := reads
        obtain ⟨signThree, smallThree⟩ := base64_digit_of_value foundThree
        rw [← signThree]
        split at reads
        · next fourth =>
            split at reads
            · next last =>
                cases reads
                rw [fourth, last]
                exact ⟨[one, two, three], 1, rfl, .inl (by simp [IsWhole]),
                  carries_three one two three smallTwo smallThree⟩
            · cases reads
        · simp only [Option.bind_eq_some_iff] at reads
          obtain ⟨four, foundFour, others, found, same⟩ := reads
          obtain ⟨signFour, smallFour⟩ := base64_digit_of_value foundFour
          obtain ⟨digits, padding, rfl, filled, carries⟩ := induction found
          cases same
          rw [← signFour]
          refine ⟨one :: two :: three :: four :: digits, padding, rfl, ?_,
            carries_four one two three four smallTwo smallThree smallFour carries⟩
          unfold IsFilled IsWhole at filled ⊢
          simp only [List.length_cons]
          omega
  | case4 idle short _ _ padding =>
      cases reads
      obtain ⟨after, all⟩ := Bool.and_eq_true_iff.mp padding
      exact ⟨[], _, eq_replicate_of_padding all, .inr ⟨rfl, .inr after⟩, carries_nothing⟩
  | case5 => cases reads

theorem decode_idle_padding {chars : List Char} (all : chars.all (· = '=') = true) :
    decodeBase64Groups true chars = some [] := by
  fun_cases decodeBase64Groups true chars with
  | case1 => rfl
  | case2 => rfl
  | case3 _ _ _ _ _ other => exact absurd all other
  | case4 => rfl
  | case5 _ _ _ other => exact absurd all other

/-- Digits with padding behind them are read. -/
theorem is_some_decode_padded (idle : Bool) (digits : List Nat) (padding : Nat)
    (filled : IsFilled idle digits.length padding) :
    (decodeBase64Groups idle (padded digits padding)).isSome = true := by
  unfold IsFilled IsWhole at filled
  match digits with
  | [] =>
      cases idle with
      | true =>
          have all : (padded [] padding).all (· = '=') = true := by simp [padded]
          rw [decode_idle_padding all]
          rfl
      | false =>
          obtain rfl : padding = 0 := by
            simp only [List.length_nil, Nat.lt_irrefl, Bool.false_eq_true, or_false,
              and_false] at filled
            omega
          rfl
  | [_] =>
      simp only [List.length_cons, List.length_nil] at filled
      omega
  | [first, second] =>
      obtain rfl : padding = 2 := by
        simp only [List.length_cons, List.length_nil] at filled
        omega
      simp [padded, decodeBase64Groups, base64_value_base64_digit, base64_digit_ne_padding]
  | [first, second, third] =>
      obtain rfl : padding = 1 := by
        simp only [List.length_cons, List.length_nil] at filled
        omega
      simp [padded, decodeBase64Groups, base64_value_base64_digit, base64_digit_ne_padding]
  | first :: second :: third :: fourth :: rest =>
      have later : IsFilled true rest.length padding := by
        unfold IsFilled IsWhole
        simp only [List.length_cons, or_true, and_true] at filled ⊢
        omega
      have reads := is_some_decode_padded true rest padding later
      rw [Option.isSome_iff_exists] at reads
      obtain ⟨bytes, reads⟩ := reads
      simp [padded_cons, decodeBase64Groups, base64_value_base64_digit, base64_digit_ne_padding,
        reads]

/-- Digits of base 64 with padding behind them: up to a whole group, or idle where there are
digits and all groups of them are whole. -/
def IsStrictBase64 (text : String) : Prop :=
  ∃ digits padding, text.toList = padded digits padding ∧
    (IsWhole digits.length padding ∨ digits.length % 4 = 0 ∧ 0 < digits.length)

theorem is_some_decode_base64_iff (text : String) :
    (decodeBase64 text).isSome = true ↔ IsStrictBase64 text := by
  constructor
  · intro reads
    obtain ⟨bytes, reads⟩ := Option.isSome_iff_exists.mp reads
    obtain ⟨digits, padding, chars, filled, -⟩ := padded_of_groups false reads
    exact ⟨digits, padding, chars, by simpa [IsFilled] using filled⟩
  · rintro ⟨digits, padding, chars, filled⟩
    rw [decodeBase64, chars]
    exact is_some_decode_padded false digits padding (by simpa [IsFilled] using filled)

theorem values_of_padded (digits : List Nat) (padding : Nat) :
    (padded digits padding).filterMap base64Value? = digits.map (· % 2 ^ 6) := by
  have none : base64Value? '=' = none := by decide
  unfold padded
  rw [List.filterMap_append, List.filterMap_map, List.filterMap_replicate_of_none none,
    List.append_nil, ← List.filterMap_eq_map]
  congr 1
  funext digit
  exact base64_value_base64_digit digit

/-- The bytes of a text in base 64 are those that its digits carry. -/
theorem decode_base64_eq_some_iff (text : String) (bytes : Bytes) :
    decodeBase64 text = some bytes ↔
      IsStrictBase64 text ∧ Carries (text.toList.filterMap base64Value?) bytes := by
  have carried {bytes : Bytes} (reads : decodeBase64 text = some bytes) :
      Carries (text.toList.filterMap base64Value?) bytes := by
    obtain ⟨digits, padding, chars, -, spare, short, row⟩ := padded_of_groups false reads
    refine ⟨spare, short, ?_⟩
    rw [chars, values_of_padded, ← row]
    apply bits_of_digits_congr
    simp
  constructor
  · intro reads
    exact ⟨(is_some_decode_base64_iff text).mp (by rw [reads]; rfl), carried reads⟩
  · rintro ⟨strict, carries⟩
    obtain ⟨others, reads⟩ :=
      Option.isSome_iff_exists.mp ((is_some_decode_base64_iff text).mpr strict)
    rw [reads, bytes_of_carries carries (carried reads)]

/-! Hexadecimal. -/

/-- An even number of digits. -/
def IsPairs (word : List Char) : Prop :=
  word.length % 2 = 0 ∧ ∀ char ∈ word, isHexDigit char = true

theorem is_pairs_cons_cons (high low : Char) (word : List Char) :
    IsPairs (high :: low :: word) ↔
      isHexDigit high = true ∧ isHexDigit low = true ∧ IsPairs word := by
  have even : (word.length + 1 + 1) % 2 = 0 ↔ word.length % 2 = 0 := by omega
  simp only [IsPairs, List.length_cons, List.forall_mem_cons, even]
  tauto

/-- The words between gaps. -/
def words (chars : List Char) : List (List Char) := chars.splitOnP isGap

theorem words_nil : words [] = [[]] := List.splitOnP_nil

theorem words_cons_of_gap {char : Char} (gap : isGap char = true) (chars : List Char) :
    words (char :: chars) = [] :: words chars := by
  rw [words, List.splitOnP_cons_eq_if_modifyHead, if_pos gap, words]

theorem words_cons_of_not_gap {char : Char} (other : isGap char = false) (chars : List Char) :
    words (char :: chars) = (words chars).modifyHead (char :: ·) := by
  rw [words, List.splitOnP_cons_eq_if_modifyHead, if_neg (by simp [other]), words]

theorem exists_first_word (chars : List Char) : ∃ first others, words chars = first :: others :=
  List.exists_cons_of_ne_nil (List.splitOnP_ne_nil isGap chars)

theorem is_some_decode_pair (high low : Char) (rest : List Char) (other : isGap high = false) :
    (decodeHexChars (high :: low :: rest)).isSome = true ↔
      isHexDigit high = true ∧ isHexDigit low = true ∧ (decodeHexChars rest).isSome = true := by
  rw [decodeHexChars, other, ← is_some_hex_value, ← is_some_hex_value]
  cases hexValue? high <;> cases hexValue? low <;> cases decodeHexChars rest <;> simp

/-- A pair of digits in front of a text, and no other two characters, leaves its words what they
are. -/
theorem pairs_cons_cons {high : Char} (other : isGap high = false) (low : Char)
    (rest : List Char) :
    (∀ word ∈ words (high :: low :: rest), IsPairs word) ↔
      isHexDigit high = true ∧ isHexDigit low = true ∧ ∀ word ∈ words rest, IsPairs word := by
  obtain ⟨first, others, split⟩ := exists_first_word rest
  rw [words_cons_of_not_gap other]
  cases gap : isGap low with
  | true =>
      -- A gap inside a pair leaves a word of one character.
      have alone : ¬IsPairs [high] := fun pairs => absurd pairs.1 (by simp)
      have noDigit : ¬isHexDigit low = true := by
        intro digit
        rw [(plain_of_hex_digit digit).2] at gap
        cases gap
      simp [words_cons_of_gap gap, alone, noDigit]
  | false =>
      rw [words_cons_of_not_gap gap, split, List.modifyHead_cons, List.modifyHead_cons,
        List.forall_mem_cons, List.forall_mem_cons, is_pairs_cons_cons]
      tauto

theorem is_some_decode_hex_chars_iff (chars : List Char) :
    (decodeHexChars chars).isSome = true ↔ ∀ word ∈ words chars, IsPairs word := by
  match chars with
  | [] => simp [decodeHexChars, words_nil, IsPairs]
  | [char] =>
      cases gap : isGap char with
      | true => simp [decodeHexChars, words_cons_of_gap, gap, words_nil, IsPairs]
      | false => simp [decodeHexChars, words_cons_of_not_gap, gap, words_nil, IsPairs]
  | high :: low :: rest =>
      cases gap : isGap high with
      | true =>
          have empty : IsPairs [] := ⟨rfl, by simp⟩
          rw [decodeHexChars, if_pos gap, words_cons_of_gap gap, List.forall_mem_cons,
            and_iff_right empty]
          exact is_some_decode_hex_chars_iff (low :: rest)
      | false =>
          rw [is_some_decode_pair high low rest gap, pairs_cons_cons gap,
            is_some_decode_hex_chars_iff rest]

/-- Pairs of digits of either case, with gaps before, between and after them. -/
def IsSpacedHex (text : String) : Prop := ∀ word ∈ words text.toList, IsPairs word

theorem is_some_decode_hex_iff (text : String) :
    (decodeHex text).isSome = true ↔ IsSpacedHex text :=
  is_some_decode_hex_chars_iff text.toList

theorem hex_value_lt {char : Char} {value : Nat} (found : hexValue? char = some value) :
    value < 16 := by
  have small : ∀ code < 128, ∀ value ∈ hexValue? (Char.ofNat code), value < 16 := by
    decide +kernel
  have digit : isHexDigit char = true := by
    rw [← is_some_hex_value, found]
    rfl
  have bound := small char.toNat (plain_of_hex_digit digit).1 value
  rw [Char.ofNat_toNat] at bound
  exact bound found

theorem hex_value_of_gap {char : Char} (gap : isGap char = true) : hexValue? char = none := by
  rw [← Option.not_isSome_iff_eq_none, is_some_hex_value]
  intro digit
  rw [(plain_of_hex_digit digit).2] at gap
  cases gap

theorem bits_of_hex_chars {chars : List Char} {bytes : Bytes}
    (reads : decodeHexChars chars = some bytes) :
    bitsOfDigits 4 (chars.filterMap hexValue?) = bitsOfBytes bytes := by
  fun_induction decodeHexChars chars generalizing bytes with
  | case1 =>
      cases reads
      rfl
  | case2 char gap =>
      cases reads
      rw [List.filterMap_cons, hex_value_of_gap gap]
      rfl
  | case3 => cases reads
  | case4 high low rest gap induction =>
      rw [List.filterMap_cons, hex_value_of_gap gap]
      exact induction reads
  | case5 high low rest other induction =>
      simp only [Option.bind_eq_bind, Option.bind_eq_some_iff] at reads
      obtain ⟨upper, foundUpper, lower, foundLower, others, found, same⟩ := reads
      cases same
      have small := hex_value_lt foundLower
      have high : bits 4 ((16 * upper + lower) / 2 ^ 4) = bits 4 upper := bits_congr (by omega)
      have low : bits 4 (16 * upper + lower) = bits 4 lower := bits_congr (by omega)
      have pair : bits 8 (16 * upper + lower) = bits 4 upper ++ bits 4 lower := by
        rw [← bits_append 4 4, high, low]
      have rest := induction found
      rw [List.filterMap_cons_some foundUpper, List.filterMap_cons_some foundLower,
        bits_of_bytes_cons, pair, ← rest, List.append_assoc]
      rfl

/-- The bytes of a text in hexadecimal are those with the bits of its digits. -/
theorem decode_hex_eq_some_iff (text : String) (bytes : Bytes) :
    decodeHex text = some bytes ↔
      IsSpacedHex text ∧ bitsOfDigits 4 (text.toList.filterMap hexValue?) = bitsOfBytes bytes := by
  constructor
  · intro reads
    exact ⟨(is_some_decode_hex_iff text).mp (by rw [reads]; rfl), bits_of_hex_chars reads⟩
  · rintro ⟨spaced, row⟩
    obtain ⟨others, reads⟩ := Option.isSome_iff_exists.mp ((is_some_decode_hex_iff text).mpr spaced)
    rw [reads, bytes_of_bits (row.symm.trans (bits_of_hex_chars reads))]

end NodeBridge.Text
