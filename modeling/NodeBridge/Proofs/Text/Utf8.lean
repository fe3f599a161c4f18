import NodeBridge.Text.Utf8

/-!
Text survives its byte form: what a character is written as is read as that character, whatever
follows it.
-/

namespace NodeBridge

/-- A step of a reader that succeeds is passed. Unlike `Option.bind_some` this is not checked by
computing the step behind it, which can take long. -/
theorem bind_of_some {α β : Type} {outcome : Option α} {value : α} (found : outcome = some value)
    (next : α → Option β) : outcome.bind next = next value := by
  rw [found, Option.bind_some]

namespace Text

theorem to_nat_byte {value : Nat} (small : value < 256) : (byte value).toNat = value := by
  unfold byte
  rw [UInt8.toNat_ofNat']
  exact Nat.mod_eq_of_lt small

theorem to_nat_continuation (value : Nat) :
    (continuation value).toNat = 0x80 + value % 0x40 := by
  apply to_nat_byte
  omega

theorem continued_continuation (value : Nat) :
    continued? (continuation value) = some (value % 0x40) := by
  unfold continued?
  rw [to_nat_continuation, if_pos (by omega), Nat.add_sub_cancel_left]

/-- A character is no half of a surrogate pair. -/
theorem to_nat_char (char : Char) :
    char.toNat < 0xd800 ∨ 0xe000 ≤ char.toNat ∧ char.toNat < 0x110000 := by
  have valid := char.valid
  unfold UInt32.isValidChar Nat.isValidChar at valid
  have same : char.val.toNat = char.toNat := rfl
  omega

theorem char_within_to_nat {low high : Nat} {char : Char} (least : low ≤ char.toNat)
    (most : char.toNat ≤ high) : charWithin? low high char.toNat = some char := by
  have whole := to_nat_char char
  unfold charWithin?
  rw [if_pos ⟨least, most, by omega⟩, Char.ofNat_toNat]

/-! Reading from a first byte, by how many bytes it asks for. -/

section Widths

variable {first second third fourth : UInt8} (rest : Bytes)

theorem decode_chars_of_one {char : Char} (small : first.toNat < 0x80)
    (within : charWithin? 0 0x7f first.toNat = some char) :
    decodeChars (first :: rest) = (decodeChars rest).map (char :: ·) := by
  rw [decodeChars.eq_def]
  simp only [small, if_true, within]
  cases decodeChars rest <;> rfl

theorem decode_chars_of_two {char : Char} {low : Nat} (least : 0xc0 ≤ first.toNat)
    (most : first.toNat < 0xe0) (tail : continued? second = some low)
    (within : charWithin? 0x80 0x7ff ((first.toNat - 0xc0) * 0x40 + low) = some char) :
    decodeChars (first :: second :: rest) = (decodeChars rest).map (char :: ·) := by
  have one : ¬first.toNat < 0x80 := by omega
  have none : ¬first.toNat < 0xc0 := by omega
  rw [decodeChars.eq_def]
  simp only [one, none, most, if_true, if_false, Option.bind_eq_bind]
  rw [bind_of_some tail, bind_of_some within]
  cases decodeChars rest <;> rfl

theorem decode_chars_of_three {char : Char} {middle low : Nat} (least : 0xe0 ≤ first.toNat)
    (most : first.toNat < 0xf0) (inner : continued? second = some middle)
    (tail : continued? third = some low)
    (within : charWithin? 0x800 0xffff
      ((first.toNat - 0xe0) * 0x1000 + middle * 0x40 + low) = some char) :
    decodeChars (first :: second :: third :: rest) = (decodeChars rest).map (char :: ·) := by
  have one : ¬first.toNat < 0x80 := by omega
  have none : ¬first.toNat < 0xc0 := by omega
  have two : ¬first.toNat < 0xe0 := by omega
  rw [decodeChars.eq_def]
  simp only [one, none, two, most, if_true, if_false, Option.bind_eq_bind]
  rw [bind_of_some inner, bind_of_some tail, bind_of_some within]
  cases decodeChars rest <;> rfl

theorem decode_chars_of_four {char : Char} {upper middle low : Nat} (least : 0xf0 ≤ first.toNat)
    (most : first.toNat < 0xf8) (outer : continued? second = some upper)
    (inner : continued? third = some middle) (tail : continued? fourth = some low)
    (within : charWithin? 0x10000 0x10ffff
      ((first.toNat - 0xf0) * 0x40000 + upper * 0x1000 + middle * 0x40 + low) = some char) :
    decodeChars (first :: second :: third :: fourth :: rest) =
      (decodeChars rest).map (char :: ·) := by
  have one : ¬first.toNat < 0x80 := by omega
  have none : ¬first.toNat < 0xc0 := by omega
  have two : ¬first.toNat < 0xe0 := by omega
  have three : ¬first.toNat < 0xf0 := by omega
  rw [decodeChars.eq_def]
  simp only [one, none, two, three, most, if_true, if_false, Option.bind_eq_bind]
  rw [bind_of_some outer, bind_of_some inner, bind_of_some tail, bind_of_some within]
  cases decodeChars rest <;> rfl

end Widths

/-- A character is read first, and then what follows it. -/
theorem decode_chars_encode_char (char : Char) (rest : Bytes) :
    decodeChars (encodeChar char ++ rest) = (decodeChars rest).map (char :: ·) := by
  have bound := to_nat_char char
  have within {low high code : Nat} (same : code = char.toNat) (least : low ≤ char.toNat)
      (most : char.toNat ≤ high) : charWithin? low high code = some char := by
    rw [same]
    exact char_within_to_nat least most
  unfold encodeChar
  simp only
  by_cases one : char.toNat < 0x80
  · rw [if_pos one]
    have lead := to_nat_byte (show char.toNat < 256 by omega)
    exact decode_chars_of_one rest (by omega) (within lead (by omega) (by omega))
  rw [if_neg one]
  by_cases two : char.toNat < 0x800
  · rw [if_pos two]
    have lead := to_nat_byte (show 0xc0 + char.toNat / 0x40 < 256 by omega)
    exact decode_chars_of_two rest (by omega) (by omega) (continued_continuation _)
      (within (by omega) (by omega) (by omega))
  rw [if_neg two]
  by_cases three : char.toNat < 0x10000
  · rw [if_pos three]
    have lead := to_nat_byte (show 0xe0 + char.toNat / 0x1000 < 256 by omega)
    exact decode_chars_of_three rest (by omega) (by omega) (continued_continuation _)
      (continued_continuation _) (within (by omega) (by omega) (by omega))
  · rw [if_neg three]
    have lead := to_nat_byte (show 0xf0 + char.toNat / 0x40000 < 256 by omega)
    exact decode_chars_of_four rest (by omega) (by omega) (continued_continuation _)
      (continued_continuation _) (continued_continuation _)
      (within (by omega) (by omega) (by omega))

theorem decode_chars_encode_chars (chars : List Char) :
    decodeChars (encodeChars chars) = some chars := by
  induction chars with
  | nil => rfl
  | cons char chars induction =>
      have front : encodeChars (char :: chars) = encodeChar char ++ encodeChars chars := rfl
      rw [front, decode_chars_encode_char, induction]
      rfl

theorem decode_utf8_encode_utf8 (text : String) : decodeUtf8 (encodeUtf8 text) = some text := by
  unfold decodeUtf8 encodeUtf8
  rw [decode_chars_encode_chars, Option.map_some, String.ofList_toList]

end Text

end NodeBridge
