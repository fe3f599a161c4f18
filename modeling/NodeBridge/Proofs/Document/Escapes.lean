import NodeBridge.Json.Printer
import NodeBridge.Json.Reader
import NodeBridge.Proofs.Text.Binary
import NodeBridge.Proofs.Text.Utf8

/-!
Texts between quotes are read as they were written. Every character is read back from its
escape, whatever stands around it: a character as such, a character behind a backslash, the code
of a character, or the codes of the two halves of one.
-/

namespace NodeBridge.Json

/-- Whether a character is read from what is written for it, before any other pieces. -/
def IsReadFrom (char : Char) (written : List Char) : Prop :=
  ∃ units, (∀ rest, readUnits (written ++ rest) =
      (readUnits rest).map fun read => (units ++ read.1, read.2)) ∧
    ∀ more, joinUnits (units ++ more) = char :: joinUnits more

/-- Whether every character is read from its escape. -/
def ReadsEscapes (escape : Char → List Char) : Prop := ∀ char, IsReadFrom char (escape char)

section

variable {char : Char} {code : Nat}

theorem read_units_plain (quote : char ≠ '"') (slash : char ≠ '\\') (visible : 0x20 ≤ char.toNat)
    (rest : List Char) : readUnits (char :: rest) =
      (readUnits rest).map fun read => (.plain char :: read.1, read.2) := by
  rw [readUnits.eq_def]
  split
  · next none => cases none
  · next same =>
      cases same
      exact absurd rfl quote
  · next same =>
      cases same
      exact absurd rfl slash
  · next same =>
      cases same
      exact absurd rfl slash
  · next same =>
      cases same
      rw [if_neg (by omega)]
      cases readUnits rest <;> rfl

theorem read_units_escaped {letter : Char} (escaped : escapedChar? letter = some char)
    (rest : List Char) : readUnits ('\\' :: letter :: rest) =
      (readUnits rest).map fun read => (.plain char :: read.1, read.2) := by
  have other : letter ≠ 'u' := by
    rintro rfl
    cases escaped
  rw [readUnits.eq_def]
  split
  · next none => cases none
  · next same => cases same
  · next same =>
      cases same
      exact absurd rfl other
  · next same =>
      cases same
      rw [escaped]
      cases readUnits rest <;> rfl
  · next plain same =>
      cases same
      exact (plain letter rest rfl rfl).elim

theorem code_hex_digits (code : Nat) (small : code < 0x10000) :
    code? (Text.hexDigit (code / 16 / 16 / 16)) (Text.hexDigit (code / 16 / 16))
      (Text.hexDigit (code / 16)) (Text.hexDigit code) = some code := by
  simp only [code?, Text.hex_value_hex_digit, Option.bind_eq_bind, Option.bind_some,
    Option.some.injEq]
  omega

theorem read_units_code_escape (small : code < 0x10000) (rest : List Char) :
    readUnits (codeEscape code ++ rest) =
      (readUnits rest).map fun read => (.code code :: read.1, read.2) := by
  have written : codeEscape code ++ rest = '\\' :: 'u' ::
      Text.hexDigit (code / 16 / 16 / 16) :: Text.hexDigit (code / 16 / 16) ::
      Text.hexDigit (code / 16) :: Text.hexDigit code :: rest := rfl
  rw [written, readUnits.eq_def]
  simp only [code_hex_digits code small, Option.bind_eq_bind, Option.bind_some]
  cases readUnits rest <;> rfl

theorem join_units_code (other : isHighHalf code = false) (more : List TextUnit) :
    joinUnits (.code code :: more) = codeChar code :: joinUnits more := by
  cases more with
  | nil => rfl
  | cons unit more =>
      cases unit with
      | plain char => rfl
      | code low => simp [joinUnits, other]

theorem is_read_from_plain (quote : char ≠ '"') (slash : char ≠ '\\')
    (visible : 0x20 ≤ char.toNat) : IsReadFrom char [char] :=
  ⟨[.plain char], read_units_plain quote slash visible, fun _ => rfl⟩

theorem is_read_from_escaped {letter : Char} (escaped : escapedChar? letter = some char) :
    IsReadFrom char ['\\', letter] :=
  ⟨[.plain char], read_units_escaped escaped, fun _ => rfl⟩

theorem is_read_from_code (small : char.toNat < 0x10000) :
    IsReadFrom char (codeEscape char.toNat) := by
  have whole := Text.to_nat_char char
  have high : isHighHalf char.toNat = false := by
    simp only [isHighHalf, Bool.and_eq_false_iff, decide_eq_false_iff_not]
    omega
  have low : isLowHalf char.toNat = false := by
    simp only [isLowHalf, Bool.and_eq_false_iff, decide_eq_false_iff_not]
    omega
  refine ⟨[.code char.toNat], read_units_code_escape small, ?_⟩
  intro more
  rw [List.singleton_append, join_units_code high, codeChar, high, low, Bool.or_self,
    if_neg Bool.false_ne_true, Char.ofNat_toNat]

theorem is_read_from_halves (large : 0x10000 ≤ char.toNat) :
    IsReadFrom char (codeEscape (0xd800 + (char.toNat - 0x10000) / 0x400) ++
      codeEscape (0xdc00 + (char.toNat - 0x10000) % 0x400)) := by
  have whole := Text.to_nat_char char
  refine ⟨[.code (0xd800 + (char.toNat - 0x10000) / 0x400),
    .code (0xdc00 + (char.toNat - 0x10000) % 0x400)], ?_, ?_⟩
  · intro rest
    rw [List.append_assoc, read_units_code_escape (by omega), read_units_code_escape (by omega),
      Option.map_map]
    rfl
  · intro more
    have high : isHighHalf (0xd800 + (char.toNat - 0x10000) / 0x400) = true := by
      simp only [isHighHalf, Bool.and_eq_true, decide_eq_true_eq]
      omega
    have low : isLowHalf (0xdc00 + (char.toNat - 0x10000) % 0x400) = true := by
      simp only [isLowHalf, Bool.and_eq_true, decide_eq_true_eq]
      omega
    have joined : pairChar (0xd800 + (char.toNat - 0x10000) / 0x400)
        (0xdc00 + (char.toNat - 0x10000) % 0x400) = char := by
      have halves : 0x10000 +
          (0xd800 + (char.toNat - 0x10000) / 0x400 - 0xd800) * 0x400 +
          (0xdc00 + (char.toNat - 0x10000) % 0x400 - 0xdc00) = char.toNat := by omega
      unfold pairChar
      rw [halves, Char.ofNat_toNat]
    simp [joinUnits, high, low, joined]

/-- A character that must be escaped is read from its escape, and no other one needs to be. -/
theorem common_escape_cases (char : Char) :
    (∃ written, commonEscape? char = some written ∧ IsReadFrom char written) ∨
      commonEscape? char = none ∧ char ≠ '"' ∧ char ≠ '\\' ∧ 0x20 ≤ char.toNat := by
  unfold commonEscape?
  split
  iterate 7 exact .inl ⟨_, rfl, is_read_from_escaped rfl⟩
  next quote slash _ _ _ _ _ =>
    split
    · next small => exact .inl ⟨_, rfl, is_read_from_code (by omega)⟩
    · next visible => exact .inr ⟨rfl, quote, slash, by omega⟩

end

theorem reads_plain_escapes : ReadsEscapes plainChar := by
  intro char
  unfold plainChar
  rcases common_escape_cases char with ⟨written, escaped, reads⟩ | ⟨none, quote, slash, visible⟩
  · rw [escaped]
    exact reads
  · rw [none]
    exact is_read_from_plain quote slash visible

theorem reads_ascii_escapes : ReadsEscapes asciiChar := by
  intro char
  unfold asciiChar
  rcases common_escape_cases char with ⟨written, escaped, reads⟩ | ⟨none, quote, slash, visible⟩
  · rw [escaped]
    exact reads
  · rw [none]
    dsimp only
    split
    · exact is_read_from_plain quote slash visible
    · split
      · next small => exact is_read_from_code small
      · next large => exact is_read_from_halves (by omega)

/-- A text is read up to its closing quote, as it was written. -/
theorem read_text_write {escape : Char → List Char} (reads : ReadsEscapes escape) (text : String)
    (rest : List Char) :
    readText (text.toList.flatMap escape ++ '"' :: rest) = some (text, rest) := by
  have units (chars : List Char) : ∃ units,
      readUnits (chars.flatMap escape ++ '"' :: rest) = some (units, rest) ∧
        joinUnits units = chars := by
    induction chars with
    | nil => exact ⟨[], rfl, rfl⟩
    | cons char chars induction =>
        obtain ⟨more, read, joined⟩ := induction
        obtain ⟨units, front, joins⟩ := reads char
        refine ⟨units ++ more, ?_, ?_⟩
        · rw [List.flatMap_cons, List.append_assoc, front, read]
          rfl
        · rw [joins, joined]
  obtain ⟨units, read, joined⟩ := units text.toList
  unfold readText
  rw [read]
  simp [joined]

end NodeBridge.Json
