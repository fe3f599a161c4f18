import NodeBridge.Proofs.Adaptive.Complaints
import NodeBridge.Proofs.Chain.Point
import NodeBridge.Proofs.Document.Written
import NodeBridge.Proofs.NormalForm.Response

/-!
Points survive their text form, unless a number of them is too long for any text. A quote at the
front of a document makes it a text, so the reader knows the form of a point by its first
character.
-/

namespace NodeBridge

namespace Json

/-- Whether a document is a text between quotes. -/
def isText : Json → Bool
  | .text _ => true
  | _ => false

section

variable {fuel : Nat} {input rest : List Char} {json : Json}

theorem is_text_of_read_number (reads : readNumber input = some (json, rest)) :
    json.isText = false := by
  have magnitude {negative : Bool} {input : List Char}
      (reads : readMagnitude negative input = some (json, rest)) : json.isText = false := by
    unfold readMagnitude at reads
    obtain ⟨whole, -, reads⟩ := Option.bind_eq_some_iff.mp reads
    dsimp only at reads
    split at reads
    · cases reads
      rfl
    · split at reads
      · split at reads
        · cases reads
        · cases reads
          rfl
      · cases reads
        rfl
  unfold readNumber at reads
  split at reads <;> exact magnitude reads

/-- A value that is read is a text if it begins with a quote, and in no other case. -/
theorem is_text_iff_of_read_value (reads : readValue fuel input = some (json, rest)) :
    json.isText = true ↔ input.head? = some '"' := by
  cases fuel with
  | zero => cases reads
  | succ fuel =>
      rw [readValue.eq_def] at reads
      dsimp only at reads
      split at reads
      · obtain ⟨content, -, same⟩ := Option.bind_eq_some_iff.mp reads
        cases same
        exact iff_of_true rfl rfl
      iterate 2
        split at reads
        · cases reads
          exact iff_of_false Bool.false_ne_true (by simp)
        · obtain ⟨parts, -, same⟩ := Option.bind_eq_some_iff.mp reads
          cases same
          exact iff_of_false Bool.false_ne_true (by simp)
      iterate 6
        cases reads
        exact iff_of_false Bool.false_ne_true (by simp)
      next quote _ _ _ _ _ _ _ _ =>
        rw [is_text_of_read_number reads]
        apply iff_of_false Bool.false_ne_true
        intro first
        obtain ⟨rest, rfl⟩ := List.head?_eq_some_iff.mp first
        exact quote rest rfl

theorem is_text_iff_of_read_document {first : Char} (visible : isSpace first = false)
    (reads : readDocument (first :: rest) = some json) : json.isText = true ↔ first = '"' := by
  unfold readDocument at reads
  rw [drop_space_cons visible] at reads
  obtain ⟨⟨value, suffix⟩, read, whole⟩ := Option.bind_eq_some_iff.mp reads
  dsimp only at whole
  split at whole
  · cases whole
    rw [is_text_iff_of_read_value read, List.head?_cons, Option.some.injEq]
  · cases whole

end

end Json

namespace Text

theorem blank_of_is_space {char : Char} (space : Json.isSpace char = true) :
    isBlank char = true := by
  simp only [Json.isSpace, Bool.or_eq_true, decide_eq_true_eq] at space
  rcases space with ((rfl | rfl) | rfl) | rfl <;> decide

/-- What is left behind the blanks does not begin with one. -/
theorem visible_of_drop_blank {input rest : List Char} {first : Char}
    (left : dropBlank input = first :: rest) : Json.isSpace first = false := by
  have stopped := List.head?_dropWhile_not isBlank input
  unfold dropBlank at left
  rw [left] at stopped
  apply Bool.eq_false_iff.mpr
  intro space
  rw [List.head?_cons] at stopped
  dsimp only at stopped
  rw [blank_of_is_space space] at stopped
  exact Bool.false_ne_true stopped.symm

end Text

theorem BlockPoint.is_legible_to_json {block : BlockPoint}
    (short : (Point.structural block).isTooLong = false) : block.toJson.IsLegible := by
  simp only [Point.isTooLong, Bool.or_eq_false_iff] at short
  obtain ⟨slot, height⟩ := short
  refine ⟨block.nodup_names_of_fields, Json.are_fields_legible_iff.mpr ?_⟩
  intro field member
  have named := block.fields_sublist.subset member
  simp only [List.mem_cons, List.not_mem_nil, or_false] at named
  rcases named with rfl | rfl | rfl
  · exact height
  · trivial
  · exact slot

namespace Point

theorem is_legible_to_json {point : Point} (short : point.isTooLong = false) :
    point.toJson.IsLegible := by
  cases point with
  | symbolic name => trivial
  | structural block => exact block.is_legible_to_json short

/-- No text of a point begins with a blank. -/
theorem drop_blank_ascii_text (point : Point) :
    Text.dropBlank point.asciiText.toList = point.asciiText.toList := by
  unfold asciiText Json.asciiText
  rw [String.toList_ofList]
  cases point with
  | symbolic name => rfl
  | structural block =>
      dsimp only [toJson, BlockPoint.toJson]
      cases block.fields <;> rfl

/-- The first character and the kind of the document tell the same about a point. -/
theorem of_text_of_read_document {content : String} {json : Json}
    (reads : Json.readDocument (Text.dropBlank content.toList) = some json) :
    ofText content = ofJson json := by
  unfold ofText ofChars
  cases left : Text.dropBlank content.toList with
  | nil =>
      rw [left] at reads
      cases reads
  | cons first rest =>
      rw [left] at reads
      have quoted := Json.is_text_iff_of_read_document (Text.visible_of_drop_blank left) reads
      simp only [reads]
      split
      · next quote =>
          have text := quoted.mpr quote
          cases json <;> cases text
          rfl
      · next other =>
          cases json with
          | text name => exact absurd (quoted.mp rfl) other
          | _ => rfl

theorem of_text_of_no_document {content : String}
    (fails : Json.readDocument (Text.dropBlank content.toList) = none) :
    ∃ error, ofText content = .error error ∧ error.isComplaint = true := by
  unfold ofText ofChars
  cases left : Text.dropBlank content.toList with
  | nil => exact ⟨_, rfl, rfl⟩
  | cons first rest =>
      rw [left] at fails
      simp only [fails]
      exact ⟨_, rfl, rfl⟩

theorem of_bytes_eq (bytes : Bytes) :
    ofBytes bytes = match Text.decodeUtf8 bytes with
      | some content => ofText content
      | none => .error .pointNotUtf8 := by
  unfold ofBytes Text.decodeUtf8
  cases Text.decodeChars bytes with
  | none => rfl
  | some input => simp [ofText]

theorem of_text_ascii_text {point : Point} (short : point.isTooLong = false) :
    ofText point.asciiText = .ok point := by
  have read := (Json.read_document_texts (is_legible_to_json short)).2
  rw [of_text_of_read_document, of_json_to_json]
  rw [drop_blank_ascii_text]
  exact read

/-- A point whose numbers can be written is read back from its text and from the bytes of that.
Any text is read as the document in it, a text with no document in it is complained about, and
so are bytes that are none of a text. -/
theorem text_form_faithful :
    (∀ point : Point, if point.isTooLong then point.written = .error .numberTooLong else
      ∃ content, point.written = .ok content ∧ ofText content = .ok point ∧
        ofBytes (Text.encodeUtf8 content) = .ok point) ∧
    (∀ content : String, match Json.readDocument (Text.dropBlank content.toList) with
      | some json => ofText content = ofJson json ∧ Complains (ofJson json)
      | none => ∃ error, ofText content = .error error ∧ error.isComplaint = true) ∧
    (∀ bytes : Bytes, match Text.decodeUtf8 bytes with
      | some content => ofBytes bytes = ofText content
      | none => ∃ error, ofBytes bytes = .error error ∧ error.isComplaint = true) := by
  refine ⟨?_, ?_, ?_⟩
  · intro point
    split
    · next long => exact if_pos long
    · next short =>
        have read := of_text_ascii_text (Bool.eq_false_iff.mpr short)
        refine ⟨point.asciiText, if_neg short, read, ?_⟩
        rw [of_bytes_eq, Text.decode_utf8_encode_utf8]
        exact read
  · intro content
    cases document : Json.readDocument (Text.dropBlank content.toList) with
    | some json => exact ⟨of_text_of_read_document document, complains_of_json json⟩
    | none => exact of_text_of_no_document document
  · intro bytes
    have read := of_bytes_eq bytes
    cases decoded : Text.decodeUtf8 bytes with
    | some content => rw [read, decoded]
    | none =>
        rw [read, decoded]
        exact ⟨_, rfl, rfl⟩

/-- A block whose slot has one digit too many. -/
def withLongSlot : Point := .structural ⟨"aa", Nat.pow 10 Text.digitLimit, none⟩

theorem is_too_long_with_long_slot : withLongSlot.isTooLong = true := by
  decide +kernel

/-- A point whose slot has one digit too many has no text at all, so not every point is read back
from one. -/
theorem no_text_of_long_slot :
    withLongSlot.written = .error .numberTooLong ∧
    ¬∀ point : Point, ∃ content, point.written = .ok content ∧ ofText content = .ok point := by
  have fails : withLongSlot.written = .error .numberTooLong := if_pos is_too_long_with_long_slot
  refine ⟨fails, fun survives => ?_⟩
  obtain ⟨content, written, -⟩ := survives withLongSlot
  cases fails.symm.trans written

end Point

end NodeBridge
