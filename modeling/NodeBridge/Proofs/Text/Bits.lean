import Mathlib.Algebra.Group.Nat.Defs
import NodeBridge.Proofs.Text.Binary

/-!
The bits behind both text forms of bytes. A digit of base 64 stands for six bits and one in
hexadecimal for four, and a text stands for the bits of its digits in a row, which are those of
the bytes. In base 64 the digits come in groups of four; what a last group has too few is made up
by padding, and what its digits have too many are zeros. The bytes and these rules decide the
text, and the digits of a text decide the bytes.
-/

namespace NodeBridge.Text

/-- The lowest bits of a number, the highest of them first. -/
def bits : Nat → Nat → List Bool
  | 0, _ => []
  | width + 1, value => value.testBit width :: bits width value

theorem length_bits (width value : Nat) : (bits width value).length = width := by
  induction width with
  | zero => rfl
  | succ width induction => rw [bits, List.length_cons, induction]

theorem bits_congr {width left right : Nat} (same : left % 2 ^ width = right % 2 ^ width) :
    bits width left = bits width right := by
  induction width with
  | zero => rfl
  | succ width induction =>
      have lower : left % 2 ^ width = right % 2 ^ width := by
        have divides : 2 ^ width ∣ 2 ^ (width + 1) := Nat.pow_dvd_pow 2 (Nat.le_succ width)
        rw [← Nat.mod_mod_of_dvd left divides, same, Nat.mod_mod_of_dvd right divides]
      have highest : left.testBit width = right.testBit width := by
        have tested := congrArg (fun value => value.testBit width) same
        simpa [Nat.testBit_mod_two_pow] using tested
      rw [bits, bits, highest, induction lower]

theorem bits_injective {width left right : Nat} (same : bits width left = bits width right) :
    left % 2 ^ width = right % 2 ^ width := by
  induction width with
  | zero => rw [Nat.pow_zero, Nat.mod_one, Nat.mod_one]
  | succ width induction =>
      obtain ⟨highest, rest⟩ := List.cons.inj same
      have lower := induction rest
      apply Nat.eq_of_testBit_eq
      intro place
      have tested := congrArg (fun value => value.testBit place) lower
      simp only [Nat.testBit_mod_two_pow] at tested ⊢
      rcases Nat.lt_trichotomy place width with below | rfl | above
      · have within : place < width + 1 := by omega
        simpa [below, within] using tested
      · simp [highest]
      · have beyond : ¬place < width + 1 := by omega
        simp [beyond]

/-- The bits of a number are those of its upper part before those of its lower part. -/
theorem bits_append (high low value : Nat) :
    bits high (value / 2 ^ low) ++ bits low value = bits (high + low) value := by
  induction high with
  | zero => rw [Nat.zero_add, bits, List.nil_append]
  | succ high induction =>
      rw [Nat.succ_add, bits, bits, List.cons_append, induction, Nat.testBit_div_two_pow,
        Nat.add_comm]

/-- All rows of bits are those of some number. -/
theorem exists_value_of_bits (row : List Bool) : ∃ value, bits row.length value = row := by
  induction row with
  | nil => exact ⟨0, rfl⟩
  | cons bit row induction =>
      obtain ⟨value, same⟩ := induction
      refine ⟨2 ^ row.length * bit.toNat + value % 2 ^ row.length, ?_⟩
      have small : value % 2 ^ row.length < 2 ^ row.length := Nat.mod_lt _ (Nat.two_pow_pos _)
      have lower : bits row.length (2 ^ row.length * bit.toNat + value % 2 ^ row.length) =
          bits row.length value := bits_congr (by simp)
      have highest : (2 ^ row.length * bit.toNat + value % 2 ^ row.length).testBit row.length =
          bit := by
        rw [Nat.testBit_two_pow_mul_add _ small]
        cases bit <;> simp
      rw [List.length_cons, bits, lower, same, highest]

/-! Bytes as bits. -/

def bitsOfBytes (bytes : Bytes) : List Bool := bytes.flatMap fun value => bits 8 value.toNat

theorem length_bits_of_bytes (bytes : Bytes) : (bitsOfBytes bytes).length = 8 * bytes.length := by
  induction bytes with
  | nil => rfl
  | cons value bytes induction =>
      unfold bitsOfBytes at induction ⊢
      rw [List.flatMap_cons, List.length_append, induction, length_bits, List.length_cons]
      omega

theorem bits_byte (value : Nat) : bits 8 (byte value).toNat = bits 8 value := by
  apply bits_congr
  rw [byte, UInt8.toNat_ofNat', Nat.mod_mod]

theorem bits_of_bytes_cons (value : Nat) (bytes : Bytes) :
    bitsOfBytes (byte value :: bytes) = bits 8 value ++ bitsOfBytes bytes := by
  unfold bitsOfBytes
  rw [List.flatMap_cons, bits_byte]

theorem bytes_of_bits {bytes others : Bytes} (same : bitsOfBytes bytes = bitsOfBytes others) :
    bytes = others := by
  induction bytes generalizing others with
  | nil =>
      have none := congrArg List.length same
      rw [length_bits_of_bytes, length_bits_of_bytes, List.length_nil] at none
      exact (List.length_eq_zero_iff.mp (by omega)).symm
  | cons value bytes induction =>
      cases others with
      | nil =>
          have some := congrArg List.length same
          rw [length_bits_of_bytes, length_bits_of_bytes, List.length_cons, List.length_nil] at some
          omega
      | cons other others =>
          obtain ⟨first, rest⟩ := List.append_inj same (by rw [length_bits, length_bits])
          have values := bits_injective first
          have bound := value.toNat_lt
          have otherBound := other.toNat_lt
          have equal : value = other := UInt8.toNat_inj.mp (by omega)
          rw [equal, induction rest]

theorem exists_bytes_of_bits (row : List Bool) (whole : row.length % 8 = 0) :
    ∃ bytes, bitsOfBytes bytes = row := by
  by_cases none : row = []
  · exact ⟨[], none.symm⟩
  · have long : 8 ≤ row.length := by
      have some := List.length_pos_of_ne_nil none
      omega
    have front : (row.take 8).length = 8 := by rw [List.length_take]; omega
    obtain ⟨value, first⟩ := exists_value_of_bits (row.take 8)
    obtain ⟨bytes, others⟩ := exists_bytes_of_bits (row.drop 8) (by rw [List.length_drop]; omega)
    refine ⟨byte value :: bytes, ?_⟩
    rw [front] at first
    rw [bits_of_bytes_cons, others, first, List.take_append_drop]
termination_by row.length
decreasing_by
  rw [List.length_drop]
  omega

/-! Digits as bits. -/

def bitsOfDigits (width : Nat) (digits : List Nat) : List Bool := digits.flatMap (bits width)

theorem length_bits_of_digits (width : Nat) (digits : List Nat) :
    (bitsOfDigits width digits).length = width * digits.length := by
  induction digits with
  | nil => rfl
  | cons digit digits induction =>
      unfold bitsOfDigits at induction ⊢
      rw [List.flatMap_cons, List.length_append, induction, length_bits, List.length_cons,
        Nat.mul_succ, Nat.add_comm]

theorem bits_of_digits_congr {width : Nat} {digits others : List Nat}
    (same : digits.map (· % 2 ^ width) = others.map (· % 2 ^ width)) :
    bitsOfDigits width digits = bitsOfDigits width others := by
  induction digits generalizing others with
  | nil =>
      obtain rfl : others = [] := List.map_eq_nil_iff.mp same.symm
      rfl
  | cons digit digits induction =>
      cases others with
      | nil => cases same
      | cons other others =>
          obtain ⟨first, rest⟩ := List.cons.inj same
          unfold bitsOfDigits at induction ⊢
          rw [List.flatMap_cons, List.flatMap_cons, bits_congr first, induction rest]

theorem digits_of_bits {width : Nat} {digits others : List Nat}
    (lengths : digits.length = others.length)
    (same : bitsOfDigits width digits = bitsOfDigits width others) :
    digits.map (· % 2 ^ width) = others.map (· % 2 ^ width) := by
  induction digits generalizing others with
  | nil =>
      obtain rfl : others = [] := List.length_eq_zero_iff.mp lengths.symm
      rfl
  | cons digit digits induction =>
      cases others with
      | nil => cases lengths
      | cons other others =>
          obtain ⟨first, rest⟩ := List.append_inj same (by rw [length_bits, length_bits])
          rw [List.map_cons, List.map_cons, bits_injective first,
            induction (Nat.succ.inj lengths) rest]

/-! Hexadecimal digits. -/

/-- Lower-case digits with the bits of the bytes. -/
def IsHexOf (bytes : Bytes) (text : String) : Prop :=
  ∃ digits, text.toList = digits.map hexDigit ∧ bitsOfDigits 4 digits = bitsOfBytes bytes

theorem is_hex_of_encode_hex (bytes : Bytes) : IsHexOf bytes (encodeHex bytes) := by
  refine ⟨bytes.flatMap fun value => [value.toNat / 16, value.toNat], ?_, ?_⟩
  · rw [encodeHex, String.toList_ofList, encodeHexChars, List.map_flatMap]
    rfl
  · unfold bitsOfDigits bitsOfBytes
    rw [List.flatMap_assoc]
    apply List.flatMap_congr
    intro value _
    exact bits_append 4 4 value.toNat

theorem map_hex_digit_mod (digits : List Nat) :
    (digits.map (· % 2 ^ 4)).map hexDigit = digits.map hexDigit := by
  rw [List.map_map]
  exact List.map_congr_left fun digit _ => hex_digit_mod digit

theorem is_hex_of_iff (bytes : Bytes) (text : String) :
    IsHexOf bytes text ↔ text = encodeHex bytes := by
  constructor
  · rintro ⟨digits, chars, row⟩
    obtain ⟨others, otherChars, otherRow⟩ := is_hex_of_encode_hex bytes
    have lengths : digits.length = others.length := by
      have rows := congrArg List.length (row.trans otherRow.symm)
      rw [length_bits_of_digits, length_bits_of_digits] at rows
      omega
    have values := digits_of_bits lengths (row.trans otherRow.symm)
    rw [← String.toList_inj, chars, otherChars, ← map_hex_digit_mod digits, values,
      map_hex_digit_mod]
  · rintro rfl
    exact is_hex_of_encode_hex bytes

/-! Digits of base 64. -/

/-- Digits of base 64 with padding behind them. -/
def padded (digits : List Nat) (padding : Nat) : List Char :=
  digits.map base64Digit ++ List.replicate padding '='

/-- Groups of four, of which only the last one may be padded, and not by more than two. -/
def IsWhole (digits padding : Nat) : Prop := (digits + padding) % 4 = 0 ∧ padding < 3

/-- Whole groups of digits with the bits of the bytes, and no bits behind them but zeros. -/
def IsBase64Of (bytes : Bytes) (text : String) : Prop :=
  ∃ digits padding, text.toList = padded digits padding ∧ IsWhole digits.length padding ∧
    bitsOfDigits 6 digits = bitsOfBytes bytes ++ List.replicate (2 * padding) false

/-! The bits of a group of digits, whole or cut short, as those of bytes. -/

theorem bits_of_two (value : Nat) :
    bitsOfDigits 6 [value / 0x40, value] = bits 8 (value / 0x10) ++ bits 4 value := by
  calc bitsOfDigits 6 [value / 0x40, value]
      = bits 12 value := bits_append 6 6 value
    _ = bits 8 (value / 0x10) ++ bits 4 value := (bits_append 8 4 value).symm

theorem bits_of_three (value : Nat) :
    bitsOfDigits 6 [value / 0x1000, value / 0x40, value] =
      bits 8 (value / 0x400) ++ (bits 8 (value / 4) ++ bits 2 value) := by
  have upper : value / 0x40 / 2 ^ 6 = value / 0x1000 := Nat.div_div_eq_div_mul ..
  have first : value / 2 ^ 2 / 2 ^ 8 = value / 0x400 := Nat.div_div_eq_div_mul ..
  calc bitsOfDigits 6 [value / 0x1000, value / 0x40, value]
      = bits 6 (value / 0x40 / 2 ^ 6) ++ bits 6 (value / 0x40) ++ bits 6 value := by
        rw [upper, List.append_assoc]
        rfl
    _ = bits 18 value := by rw [bits_append 6 6]; exact bits_append 12 6 value
    _ = bits 8 (value / 2 ^ 2 / 2 ^ 8) ++ bits 8 (value / 2 ^ 2) ++ bits 2 value := by
        rw [bits_append 8 8, bits_append 16 2]
    _ = bits 8 (value / 0x400) ++ (bits 8 (value / 4) ++ bits 2 value) := by
        rw [first, List.append_assoc]
        rfl

theorem bits_of_four (value : Nat) :
    bitsOfDigits 6 [value / 0x40000, value / 0x1000, value / 0x40, value] =
      bits 8 (value / 0x10000) ++ (bits 8 (value / 0x100) ++ bits 8 value) := by
  have upper : value / 0x40 / 0x400 = value / 0x10000 := Nat.div_div_eq_div_mul ..
  have middle : value / 0x40 / 4 = value / 0x100 := Nat.div_div_eq_div_mul ..
  have highest : value / 0x40 / 0x1000 = value / 0x40000 := Nat.div_div_eq_div_mul ..
  have next : value / 0x40 / 0x40 = value / 0x1000 := Nat.div_div_eq_div_mul ..
  calc bitsOfDigits 6 [value / 0x40000, value / 0x1000, value / 0x40, value]
      = bitsOfDigits 6 [value / 0x40 / 0x1000, value / 0x40 / 0x40, value / 0x40] ++
          bits 6 value := by
        rw [highest, next]
        simp [bitsOfDigits]
    _ = bits 8 (value / 0x10000) ++ (bits 8 (value / 0x100) ++
          (bits 2 (value / 2 ^ 6) ++ bits 6 value)) := by
        rw [bits_of_three, upper, middle]
        simp only [List.append_assoc]
        rfl
    _ = bits 8 (value / 0x10000) ++ (bits 8 (value / 0x100) ++ bits 8 value) := by
        rw [bits_append 2 6]

/-! What the digits of a text carry. -/

/-- Digits whose bits are those of the bytes and less than a byte more. -/
def Carries (digits : List Nat) (bytes : Bytes) : Prop :=
  ∃ spare, spare.length < 8 ∧ bitsOfDigits 6 digits = bitsOfBytes bytes ++ spare

theorem carries_two (one two : Nat) (small : two < 64) :
    Carries [one, two] [byte (one * 4 + two / 0x10)] := by
  let number := one * 0x40 + two
  have digits : bitsOfDigits 6 [one, two] = bitsOfDigits 6 [number / 0x40, number] := by
    apply bits_of_digits_congr
    simp only [List.map_cons, List.map_nil, List.cons.injEq, and_true, number]
    omega
  have upper : number / 0x10 = one * 4 + two / 0x10 := by omega
  refine ⟨bits 4 number, by rw [length_bits]; decide, ?_⟩
  rw [digits, bits_of_two, upper, bits_of_bytes_cons]
  rfl

theorem carries_three (one two three : Nat) (second : two < 64) (third : three < 64) :
    Carries [one, two, three]
      [byte (one * 4 + two / 0x10), byte (two * 0x10 + three / 4)] := by
  let number := one * 0x1000 + two * 0x40 + three
  have digits : bitsOfDigits 6 [one, two, three] =
      bitsOfDigits 6 [number / 0x1000, number / 0x40, number] := by
    apply bits_of_digits_congr
    simp only [List.map_cons, List.map_nil, List.cons.injEq, and_true, number]
    omega
  have upper : number / 0x400 = one * 4 + two / 0x10 := by omega
  have lower : bits 8 (number / 4) = bits 8 (two * 0x10 + three / 4) := bits_congr (by omega)
  refine ⟨bits 2 number, by rw [length_bits]; decide, ?_⟩
  rw [digits, bits_of_three, upper, lower, bits_of_bytes_cons, bits_of_bytes_cons,
    List.append_assoc]
  rfl

theorem carries_four (one two three four : Nat) {digits : List Nat} {bytes : Bytes}
    (second : two < 64) (third : three < 64) (fourth : four < 64) (later : Carries digits bytes) :
    Carries (one :: two :: three :: four :: digits)
      (byte (one * 4 + two / 0x10) :: byte (two * 0x10 + three / 4) ::
        byte (three * 0x40 + four) :: bytes) := by
  obtain ⟨spare, short, others⟩ := later
  let number := one * 0x40000 + two * 0x1000 + three * 0x40 + four
  have group : bitsOfDigits 6 [one, two, three, four] =
      bitsOfDigits 6 [number / 0x40000, number / 0x1000, number / 0x40, number] := by
    apply bits_of_digits_congr
    simp only [List.map_cons, List.map_nil, List.cons.injEq, and_true, number]
    omega
  have upper : number / 0x10000 = one * 4 + two / 0x10 := by omega
  have middle : bits 8 (number / 0x100) = bits 8 (two * 0x10 + three / 4) :=
    bits_congr (by omega)
  have lower : bits 8 number = bits 8 (three * 0x40 + four) := bits_congr (by omega)
  refine ⟨spare, short, ?_⟩
  calc bitsOfDigits 6 (one :: two :: three :: four :: digits)
      = bitsOfDigits 6 [one, two, three, four] ++ bitsOfDigits 6 digits := by
        simp [bitsOfDigits]
    _ = _ := by
        rw [others, group, bits_of_four, upper, middle, lower, bits_of_bytes_cons,
          bits_of_bytes_cons, bits_of_bytes_cons]
        simp only [List.append_assoc]

theorem bytes_of_carries {digits : List Nat} {bytes others : Bytes}
    (first : Carries digits bytes) (second : Carries digits others) : bytes = others := by
  obtain ⟨spare, short, row⟩ := first
  obtain ⟨rest, restShort, otherRow⟩ := second
  have same := row.symm.trans otherRow
  have sizes := congrArg List.length same
  rw [List.length_append, List.length_append, length_bits_of_bytes, length_bits_of_bytes] at sizes
  have lengths : (bitsOfBytes bytes).length = (bitsOfBytes others).length := by
    rw [length_bits_of_bytes, length_bits_of_bytes]
    omega
  exact bytes_of_bits (List.append_inj same lengths).1

/-! What bytes are written as. -/

theorem is_base64_of_encode_chars (bytes : Bytes) :
    ∃ digits padding, encodeBase64Chars bytes = padded digits padding ∧
      IsWhole digits.length padding ∧
      bitsOfDigits 6 digits = bitsOfBytes bytes ++ List.replicate (2 * padding) false := by
  match bytes with
  | [] => exact ⟨[], 0, rfl, ⟨rfl, by decide⟩, rfl⟩
  | [first] =>
      let number := first.toNat * 0x10000
      refine ⟨[number / 0x40000, number / 0x1000], 2, rfl, by simp [IsWhole], ?_⟩
      have row := bits_of_two (number / 0x1000)
      have upper : number / 0x1000 / 0x10 = first.toNat := by omega
      have spare : bits 4 (number / 0x1000) = bits 4 0 := bits_congr (by omega)
      rw [Nat.div_div_eq_div_mul, upper, spare] at row
      exact row
  | [first, second] =>
      let number := first.toNat * 0x10000 + second.toNat * 0x100
      have bound := second.toNat_lt
      refine ⟨[number / 0x40000, number / 0x1000, number / 0x40], 1, rfl, by simp [IsWhole], ?_⟩
      have row := bits_of_three (number / 0x40)
      have upper : number / 0x40 / 0x400 = first.toNat := by omega
      have lower : bits 8 (number / 0x40 / 4) = bits 8 second.toNat := bits_congr (by omega)
      have spare : bits 2 (number / 0x40) = bits 2 0 := bits_congr (by omega)
      rw [Nat.div_div_eq_div_mul, Nat.div_div_eq_div_mul, upper, lower, spare] at row
      exact row
  | first :: second :: third :: rest =>
      let number := first.toNat * 0x10000 + second.toNat * 0x100 + third.toNat
      have secondBound := second.toNat_lt
      have thirdBound := third.toNat_lt
      obtain ⟨digits, padding, chars, whole, others⟩ := is_base64_of_encode_chars rest
      refine ⟨[number / 0x40000, number / 0x1000, number / 0x40, number] ++ digits, padding,
        ?_, ?_, ?_⟩
      · rw [encodeBase64Chars, chars]
        rfl
      · rw [List.length_append]
        refine ⟨?_, whole.2⟩
        have groups := whole.1
        simp only [List.length_cons, List.length_nil]
        omega
      · have row := bits_of_four number
        have upper : number / 0x10000 = first.toNat := by omega
        have middle : bits 8 (number / 0x100) = bits 8 second.toNat := bits_congr (by omega)
        have lower : bits 8 number = bits 8 third.toNat := bits_congr (by omega)
        unfold bitsOfDigits at row others ⊢
        rw [List.flatMap_append, row, others, upper, middle, lower]
        simp [bitsOfBytes]

theorem is_base64_of_encode_base64 (bytes : Bytes) : IsBase64Of bytes (encodeBase64 bytes) := by
  unfold IsBase64Of encodeBase64
  rw [String.toList_ofList]
  exact is_base64_of_encode_chars bytes

theorem padded_mod (digits : List Nat) (padding : Nat) :
    padded (digits.map (· % 2 ^ 6)) padding = padded digits padding := by
  have same : (digits.map (· % 2 ^ 6)).map base64Digit = digits.map base64Digit := by
    rw [List.map_map]
    exact List.map_congr_left fun digit _ => base64_digit_mod digit
  rw [padded, same, padded]

theorem is_base64_of_iff (bytes : Bytes) (text : String) :
    IsBase64Of bytes text ↔ text = encodeBase64 bytes := by
  constructor
  · rintro ⟨digits, padding, chars, ⟨whole, short⟩, row⟩
    obtain ⟨others, fill, otherChars, ⟨otherWhole, otherShort⟩, otherRow⟩ :=
      is_base64_of_encode_base64 bytes
    have size := congrArg List.length row
    have otherSize := congrArg List.length otherRow
    rw [length_bits_of_digits, List.length_append, length_bits_of_bytes,
      List.length_replicate] at size otherSize
    -- The number of bits, in whole groups, leaves one choice for the padding.
    have lengths : digits.length = others.length := by omega
    obtain rfl : padding = fill := by omega
    have values := digits_of_bits lengths (row.trans otherRow.symm)
    rw [← String.toList_inj, chars, otherChars, ← padded_mod digits, values, padded_mod]
  · rintro rfl
    exact is_base64_of_encode_base64 bytes

/-- Whole groups of digits whose spare bits are zeros. -/
def IsCanonicalBase64 (text : String) : Prop :=
  ∃ digits padding, text.toList = padded digits padding ∧ IsWhole digits.length padding ∧
    List.replicate (2 * padding) false <:+ bitsOfDigits 6 digits

theorem is_canonical_base64_iff (text : String) : IsCanonicalBase64 text ↔ IsBase64 text := by
  constructor
  · rintro ⟨digits, padding, chars, whole, row, same⟩
    have aligned : row.length % 8 = 0 := by
      have size := congrArg List.length same
      rw [length_bits_of_digits, List.length_append, List.length_replicate] at size
      have groups := whole.1
      omega
    obtain ⟨bytes, rfl⟩ := exists_bytes_of_bits row aligned
    exact ⟨bytes, (is_base64_of_iff bytes text).mp ⟨digits, padding, chars, whole, same.symm⟩⟩
  · rintro ⟨bytes, rfl⟩
    obtain ⟨digits, padding, chars, whole, row⟩ := is_base64_of_encode_base64 bytes
    exact ⟨digits, padding, chars, whole, bitsOfBytes bytes, row.symm⟩

end NodeBridge.Text
