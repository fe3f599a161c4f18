import Mathlib.Data.List.Basic
import NodeBridge.Text.Base64

/-!
Bytes survive both of their text forms. What is written in hexadecimal digits or in base 64
is read back as it was, so lower-case digits in pairs survive the way through base 64.
-/

namespace NodeBridge.Text

/-- Lower-case hexadecimal digits in pairs, perhaps none at all. -/
def IsHex (text : String) : Prop :=
  text.toList.length % 2 = 0 ∧ ∀ char ∈ text.toList, char ∈ hexDigits

instance (text : String) : Decidable (IsHex text) :=
  decidable_of_iff (text.toList.length % 2 = 0 ∧ text.toList.all hexDigits.contains = true) (by
    simp only [IsHex, List.all_eq_true, List.contains_iff_mem])

theorem hex_digit_mod (value : Nat) : hexDigit (value % 16) = hexDigit value := by
  simp [hexDigit]

theorem hex_value_of_small : ∀ value < 16, hexValue? (hexDigit value) = some value := by
  decide

theorem hex_value_hex_digit (value : Nat) : hexValue? (hexDigit value) = some (value % 16) := by
  rw [← hex_digit_mod]
  exact hex_value_of_small (value % 16) (Nat.mod_lt value (by decide))

theorem is_gap_of_small : ∀ value < 16, isGap (hexDigit value) = false := by
  decide

theorem is_gap_hex_digit (value : Nat) : isGap (hexDigit value) = false := by
  rw [← hex_digit_mod]
  exact is_gap_of_small (value % 16) (Nat.mod_lt value (by decide))

theorem byte_of_to_nat {number : Nat} {value : UInt8} (same : number % 256 = value.toNat) :
    byte number = value := by
  apply UInt8.toNat_inj.mp
  rw [← same]
  exact UInt8.toNat_ofNat'

theorem encode_hex_chars_cons (value : UInt8) (bytes : Bytes) :
    encodeHexChars (value :: bytes) =
      hexDigit (value.toNat / 16) :: hexDigit value.toNat :: encodeHexChars bytes := rfl

theorem decode_encode_hex_chars (bytes : Bytes) :
    decodeHexChars (encodeHexChars bytes) = some bytes := by
  induction bytes with
  | nil => rfl
  | cons value bytes induction =>
      have bound := value.toNat_lt
      have halves : byte (16 * (value.toNat / 16 % 16) + value.toNat % 16) = value := by
        apply byte_of_to_nat
        omega
      rw [encode_hex_chars_cons, decodeHexChars, is_gap_hex_digit, hex_value_hex_digit,
        hex_value_hex_digit, induction]
      simp [halves]

theorem decode_hex_encode_hex (bytes : Bytes) : decodeHex (encodeHex bytes) = some bytes := by
  unfold decodeHex encodeHex
  rw [String.toList_ofList]
  exact decode_encode_hex_chars bytes

theorem hex_digit_of_mem {char : Char} (member : char ∈ hexDigits) :
    ∃ value < 16, char = hexDigit value := by
  obtain ⟨value, bound, rfl⟩ := List.mem_iff_getElem.mp member
  have small : value < 16 := bound
  refine ⟨value, small, ?_⟩
  rw [hexDigit, Nat.mod_eq_of_lt small, List.getD_eq_getElem?_getD,
    List.getElem?_eq_getElem bound, Option.getD_some]

theorem exists_bytes_of_digits (chars : List Char) (even : chars.length % 2 = 0)
    (digits : ∀ char ∈ chars, char ∈ hexDigits) :
    ∃ bytes, chars = encodeHexChars bytes := by
  match chars with
  | [] => exact ⟨[], rfl⟩
  | [_] => simp at even
  | high :: low :: rest =>
      obtain ⟨upper, upperBound, rfl⟩ := hex_digit_of_mem (digits high (by simp))
      obtain ⟨lower, lowerBound, rfl⟩ := hex_digit_of_mem (digits low (by simp))
      have shorter : rest.length % 2 = 0 := by
        simp only [List.length_cons] at even
        omega
      obtain ⟨bytes, rfl⟩ := exists_bytes_of_digits rest shorter fun char member =>
        digits char (by simp [member])
      refine ⟨byte (16 * upper + lower) :: bytes, ?_⟩
      have whole : (byte (16 * upper + lower)).toNat = 16 * upper + lower := by
        rw [byte, UInt8.toNat_ofNat']
        omega
      have first : (16 * upper + lower) / 16 = upper := by omega
      have second : (16 * upper + lower) % 16 = lower := by omega
      rw [encode_hex_chars_cons, whole, first, ← hex_digit_mod (16 * upper + lower), second]

theorem exists_bytes_of_is_hex {text : String} (hex : IsHex text) :
    ∃ bytes, text = encodeHex bytes := by
  obtain ⟨bytes, same⟩ := exists_bytes_of_digits text.toList hex.1 hex.2
  refine ⟨bytes, ?_⟩
  rw [encodeHex, ← same, String.ofList_toList]

theorem base64_digit_mod (value : Nat) : base64Digit (value % 64) = base64Digit value := by
  simp [base64Digit]

theorem base64_value_of_small :
    ∀ value < 64, base64Value? (base64Digit value) = some value ∧ base64Digit value ≠ '=' := by
  decide +kernel

theorem base64_value_base64_digit (value : Nat) :
    base64Value? (base64Digit value) = some (value % 64) := by
  rw [← base64_digit_mod]
  exact (base64_value_of_small (value % 64) (Nat.mod_lt value (by decide))).1

theorem base64_digit_ne_padding (value : Nat) : base64Digit value ≠ '=' := by
  rw [← base64_digit_mod]
  exact (base64_value_of_small (value % 64) (Nat.mod_lt value (by decide))).2

theorem decode_encode_base64_chars (bytes : Bytes) (idle : Bool) :
    decodeBase64Groups idle (encodeBase64Chars bytes) = some bytes := by
  match bytes with
  | [] => cases idle <;> rfl
  | [first] =>
      have bound := first.toNat_lt
      have whole : byte (first.toNat * 0x10000 / 0x40000 % 64 * 4 +
          first.toNat * 0x10000 / 0x1000 % 64 / 0x10) = first := by
        apply byte_of_to_nat
        omega
      simp [encodeBase64Chars, decodeBase64Groups, base64_value_base64_digit,
        base64_digit_ne_padding, whole]
  | [first, second] =>
      have bound := first.toNat_lt
      have secondBound := second.toNat_lt
      let bits := first.toNat * 0x10000 + second.toNat * 0x100
      have one : byte (bits / 0x40000 % 64 * 4 + bits / 0x1000 % 64 / 0x10) = first := by
        apply byte_of_to_nat
        omega
      have two : byte (bits / 0x1000 % 64 * 0x10 + bits / 0x40 % 64 / 4) = second := by
        apply byte_of_to_nat
        omega
      simp [encodeBase64Chars, decodeBase64Groups, base64_value_base64_digit,
        base64_digit_ne_padding, bits] at one two ⊢
      exact ⟨one, two⟩
  | first :: second :: third :: rest =>
      have bound := first.toNat_lt
      have secondBound := second.toNat_lt
      have thirdBound := third.toNat_lt
      let bits := first.toNat * 0x10000 + second.toNat * 0x100 + third.toNat
      have one : byte (bits / 0x40000 % 64 * 4 + bits / 0x1000 % 64 / 0x10) = first := by
        apply byte_of_to_nat
        omega
      have two : byte (bits / 0x1000 % 64 * 0x10 + bits / 0x40 % 64 / 4) = second := by
        apply byte_of_to_nat
        omega
      have three : byte (bits / 0x40 % 64 * 0x40 + bits % 64) = third := by
        apply byte_of_to_nat
        omega
      have induction := decode_encode_base64_chars rest true
      simp [encodeBase64Chars, decodeBase64Groups, base64_value_base64_digit,
        base64_digit_ne_padding, induction, bits] at one two three ⊢
      exact ⟨one, two, three⟩

theorem decode_base64_encode_base64 (bytes : Bytes) :
    decodeBase64 (encodeBase64 bytes) = some bytes := by
  unfold decodeBase64 encodeBase64
  rw [String.toList_ofList]
  exact decode_encode_base64_chars bytes false

theorem base64_to_hex_encode_base64 (bytes : Bytes) :
    base64ToHex (encodeBase64 bytes) = encodeHex bytes := by
  rw [base64ToHex, decode_base64_encode_base64]
  rfl

theorem hex_to_base64_encode_hex (bytes : Bytes) :
    hexToBase64 (encodeHex bytes) = encodeBase64 bytes := by
  rw [hexToBase64, decode_hex_encode_hex]
  rfl

/-- Digits in pairs survive the way through base 64. -/
theorem base64_to_hex_hex_to_base64 {text : String} (hex : IsHex text) :
    base64ToHex (hexToBase64 text) = text := by
  obtain ⟨bytes, rfl⟩ := exists_bytes_of_is_hex hex
  rw [hex_to_base64_encode_hex, base64_to_hex_encode_base64]

/-- What bytes are written as in base 64. -/
def IsBase64 (text : String) : Prop := ∃ bytes, text = encodeBase64 bytes

/-- Base 64 survives the way through digits in pairs. -/
theorem hex_to_base64_base64_to_hex {text : String} (canonical : IsBase64 text) :
    hexToBase64 (base64ToHex text) = text := by
  obtain ⟨bytes, rfl⟩ := canonical
  rw [base64_to_hex_encode_base64, hex_to_base64_encode_hex]

/-- Digits that stand for no byte are gaps only. -/
theorem decode_hex_chars_eq_nil_iff (chars : List Char) :
    decodeHexChars chars = some [] ↔ ∀ char ∈ chars, isGap char = true := by
  fun_induction decodeHexChars chars with
  | case1 => simp
  | case2 char gap => simp [gap]
  | case3 char other => simp [other]
  | case4 high low rest gap induction => simp [gap, induction]
  | case5 high low rest other induction =>
      constructor
      · intro decodes
        cases upper : hexValue? high <;> cases lower : hexValue? low <;>
          cases bytes : decodeHexChars rest <;> simp [upper, lower, bytes] at decodes
      · intro gaps
        exact absurd (gaps high List.mem_cons_self) other

theorem encode_base64_chars_eq_nil_iff (bytes : Bytes) :
    encodeBase64Chars bytes = [] ↔ bytes = [] := by
  fun_cases encodeBase64Chars bytes <;> simp

/-- Only a text of gaps has an empty form in base 64. -/
theorem hex_to_base64_eq_empty_iff (text : String) :
    hexToBase64 text = "" ↔ ∀ char ∈ text.toList, isGap char = true := by
  rw [← decode_hex_chars_eq_nil_iff]
  change _ ↔ decodeHex text = some []
  unfold hexToBase64
  cases decoded : decodeHex text with
  | none =>
      have filled : text ≠ "" := by
        rintro rfl
        cases decoded
      simp [filled]
  | some bytes =>
      have empty : encodeBase64 bytes = "" ↔ bytes = [] := by
        rw [← encode_base64_chars_eq_nil_iff, encodeBase64, String.ofList_eq_empty_iff]
      simp [empty]

end NodeBridge.Text
