import NodeBridge.Proofs.Legacy.Conversion
import NodeBridge.Proofs.Text.Strict

/-!
Bytes turned from base 64 into hexadecimal digits and back. The two ways are inverse to each
other on texts that are written as bytes are, and each leaves alone what its strict reader
refuses. Datums are taken in either form and are in hexadecimal after they were read once.
-/

namespace NodeBridge

namespace Text

theorem decode_base64_eq_none_iff (text : String) :
    decodeBase64 text = none ↔ ¬IsStrictBase64 text := by
  rw [← is_some_decode_base64_iff, Option.not_isSome_iff_eq_none]

theorem decode_hex_eq_none_iff (text : String) : decodeHex text = none ↔ ¬IsSpacedHex text := by
  rw [← is_some_decode_hex_iff, Option.not_isSome_iff_eq_none]

theorem base64_to_hex_of_refused {text : String} (refused : ¬IsStrictBase64 text) :
    base64ToHex text = text := by
  rw [base64ToHex, (decode_base64_eq_none_iff text).mpr refused]
  rfl

theorem hex_to_base64_of_refused {text : String} (refused : ¬IsSpacedHex text) :
    hexToBase64 text = text := by
  rw [hexToBase64, (decode_hex_eq_none_iff text).mpr refused]
  rfl

theorem exists_bytes_of_strict {text : String} (strict : IsStrictBase64 text) :
    ∃ bytes, decodeBase64 text = some bytes ∧ base64ToHex text = encodeHex bytes := by
  obtain ⟨bytes, reads⟩ := Option.isSome_iff_exists.mp ((is_some_decode_base64_iff text).mpr strict)
  refine ⟨bytes, reads, ?_⟩
  rw [base64ToHex, reads]
  rfl

instance (text : String) : Decidable (IsStrictBase64 text) :=
  decidable_of_iff _ (is_some_decode_base64_iff text)

instance (text : String) : Decidable (IsSpacedHex text) :=
  decidable_of_iff _ (is_some_decode_hex_iff text)

/-- A text in hexadecimal digits, as it was sent if it had them already. -/
def inHex (text : String) : String := if IsSpacedHex text then text else base64ToHex text

end Text

open Text

namespace Datums

theorem of_json_idempotent (json : Json) :
    ((ofJson json).bind fun datums => ofJson datums.toJson) = ofJson json := by
  cases reads : ofJson json with
  | error error => rfl
  | ok datums => exact of_json_to_json (readable_of_json reads)

theorem read_datum_of_legible (hash : String) {content : String}
    (legible : IsSpacedHex content ∨ IsStrictBase64 content) :
    readDatum hash (.text content) = .ok (inHex content) := by
  by_cases hex : IsSpacedHex content
  · obtain ⟨bytes, reads⟩ := Option.isSome_iff_exists.mp ((is_some_decode_hex_iff content).mpr hex)
    simp only [readDatum, reads, inHex, if_pos hex]
  · obtain ⟨bytes, reads, written⟩ := exists_bytes_of_strict (legible.resolve_left hex)
    have refused := (decode_hex_eq_none_iff content).mpr hex
    simp only [readDatum, refused, reads, inHex, if_neg hex, written]

theorem of_json_texts_iff (texts : Datums) :
    ofJson texts.toJson = .ok (texts.map inHex) ↔
      ∀ entry ∈ texts.entries, IsSpacedHex entry.2 ∨ IsStrictBase64 entry.2 := by
  constructor
  · intro reads entry member
    by_cases strict : IsStrictBase64 entry.2
    · exact .inr strict
    · have there : (entry.1, inHex entry.2) ∈ (texts.map inHex).entries :=
        List.mem_map_of_mem (f := fun entry => (entry.1, inHex entry.2)) member
      have readable := (is_some_decode_hex_iff _).mp (readable_of_json reads _ there)
      by_cases hex : IsSpacedHex entry.2
      · exact .inl hex
      · rw [inHex, if_neg hex, base64_to_hex_of_refused strict] at readable
        exact .inl readable
  · intro legible
    exact Decode.map_of_map "datums" fun entry member =>
      read_datum_of_legible entry.1 (legible entry member)

end Datums

/-- Bytes have one text in base 64 and one in hexadecimal digits, told by their bits, and each is
turned into the other. So the two ways are inverse to each other on whole groups whose spare bits
are zeros and on lower-case digits in pairs. A strict reader takes more than these texts, by the
bits of their digits, and what it refuses is left alone. Datums may come in all of these forms;
once they were read, reading them again changes nothing. -/
theorem base64_and_hex_inverse :
    (∀ bytes : Bytes,
      (∀ text, IsBase64Of bytes text ↔ text = encodeBase64 bytes) ∧
      (∀ text, IsHexOf bytes text ↔ text = encodeHex bytes) ∧
      base64ToHex (encodeBase64 bytes) = encodeHex bytes ∧
      hexToBase64 (encodeHex bytes) = encodeBase64 bytes) ∧
    (∀ text, IsCanonicalBase64 text → hexToBase64 (base64ToHex text) = text) ∧
    (∀ text, IsHex text → base64ToHex (hexToBase64 text) = text) ∧
    (∀ text,
      (∀ bytes, decodeBase64 text = some bytes ↔
        IsStrictBase64 text ∧ Carries (text.toList.filterMap base64Value?) bytes) ∧
      (decodeBase64 text = none ↔ ¬IsStrictBase64 text) ∧
      (decodeBase64 text = none → base64ToHex text = text)) ∧
    (∀ text,
      (∀ bytes, decodeHex text = some bytes ↔
        IsSpacedHex text ∧
          bitsOfDigits 4 (text.toList.filterMap hexValue?) = bitsOfBytes bytes) ∧
      (decodeHex text = none ↔ ¬IsSpacedHex text) ∧
      (decodeHex text = none → hexToBase64 text = text)) ∧
    (∀ json, ((Datums.ofJson json).bind fun datums => Datums.ofJson datums.toJson) =
      Datums.ofJson json) ∧
    ∀ texts : Datums, Datums.ofJson texts.toJson = .ok (texts.map inHex) ↔
      ∀ entry ∈ texts.entries, IsSpacedHex entry.2 ∨ IsStrictBase64 entry.2 := by
  refine ⟨?_, ?_, ?_, ?_, ?_, Datums.of_json_idempotent, Datums.of_json_texts_iff⟩
  · intro bytes
    exact ⟨is_base64_of_iff bytes, is_hex_of_iff bytes, base64_to_hex_encode_base64 bytes,
      hex_to_base64_encode_hex bytes⟩
  · intro text canonical
    exact hex_to_base64_base64_to_hex ((is_canonical_base64_iff text).mp canonical)
  · intro text hex
    exact base64_to_hex_hex_to_base64 hex
  · intro text
    have refusal := decode_base64_eq_none_iff text
    exact ⟨decode_base64_eq_some_iff text, refusal,
      fun refused => base64_to_hex_of_refused (refusal.mp refused)⟩
  · intro text
    have refusal := decode_hex_eq_none_iff text
    exact ⟨decode_hex_eq_some_iff text, refusal,
      fun refused => hex_to_base64_of_refused (refusal.mp refused)⟩

theorem base64_and_hex_inverse_of_samples :
    IsCanonicalBase64 "Lw==" ∧ hexToBase64 (base64ToHex "Lw==") = "Lw==" ∧
      IsHex "2f00" ∧ base64ToHex (hexToBase64 "2f00") = "2f00" ∧
      decodeBase64 "Lw=" = none ∧ base64ToHex "Lw=" = "Lw=" ∧
      decodeHex "2 f" = none ∧ hexToBase64 "2 f" = "2 f" ∧
      hexToBase64 (base64ToHex "Lx==") ≠ "Lx==" ∧
      Datums.ofJson (.object [("a", .text "Lx=="), ("b", .text "2F 00")]) =
        .ok (OrderedMap.ofList [("a", "2f"), ("b", "2F 00")]) := by
  obtain ⟨-, canonical, digits, base64, hex, -, datums⟩ := base64_and_hex_inverse
  have whole : IsCanonicalBase64 "Lw==" :=
    ⟨[11, 48], 2, by decide +kernel, ⟨by decide, by decide⟩, bits 8 0x2f, by decide⟩
  have pairs : IsHex "2f00" := by decide +kernel
  have unpadded : decodeBase64 "Lw=" = none := by decide +kernel
  have halved : decodeHex "2 f" = none := by decide +kernel
  have legible : ∀ entry ∈ (OrderedMap.ofList [("a", "Lx=="), ("b", "2F 00")]).entries,
      IsSpacedHex entry.2 ∨ IsStrictBase64 entry.2 := by decide +kernel
  have read := (datums _).mpr legible
  refine ⟨whole, canonical _ whole, pairs, digits _ pairs, unpadded, (base64 _).2.2 unpadded,
    halved, (hex _).2.2 halved, by decide +kernel, read.trans ?_⟩
  exact congrArg Except.ok (by decide +kernel)

end NodeBridge
