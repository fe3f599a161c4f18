import NodeBridge.Cbor.Reader
import NodeBridge.Cbor.Writer
import NodeBridge.Proofs.Cbor.Head

/-!
What is written is read again. The reader finds an item at the front of some bytes whatever
follows them, and what encloses it goes on behind it. Its fuel is spent on calls, of which no item
needs more than twice as many as it has bytes.
-/

namespace NodeBridge.Cbor

/-- The reader makes an item of some bytes at the front of any others, where strings are not
counted. -/
def Reads (place : Place) (bytes : Bytes) (item : Item) : Prop :=
  ∀ fuel shared suffix, 2 * bytes.length ≤ fuel →
    readItem fuel place ⟨bytes ++ suffix, none, shared⟩ = some (item, ⟨suffix, none, shared⟩)

variable {place : Place} {item : Item}

theorem reads_of_first {first : UInt8} {rest : Bytes}
    (reads : ∀ {fuel shared suffix}, 2 * rest.length < fuel →
      readItem (fuel + 1) place ⟨first :: (rest ++ suffix), none, shared⟩ =
        some (item, ⟨suffix, none, shared⟩)) :
    Reads place (first :: rest) item := by
  intro fuel shared suffix enough
  rw [List.length_cons] at enough
  obtain ⟨fuel, rfl⟩ : ∃ less, fuel = less + 1 := ⟨fuel - 1, by omega⟩
  exact reads (by omega)

/-- Behind a head the reader goes on with the argument and the content. -/
theorem reads_head_append {major argument : Nat} {content : Bytes}
    (fits : argument < Nat.pow 2 64)
    (reads : ∀ {fuel bits rest middle suffix shared}, 2 * content.length < fuel →
      bits < openLength → readArgument bits rest = some (argument, middle) →
      middle = content ++ suffix →
      readItem (fuel + 1) place ⟨lead major bits :: rest, none, shared⟩ =
        some (item, ⟨suffix, none, shared⟩)) :
    Reads place (head major argument ++ content) item := by
  obtain ⟨bits, rest, closed, written, found⟩ := exists_lead_of_head major fits
  rw [written, List.cons_append]
  apply reads_of_first
  intro fuel shared suffix enough
  rw [List.length_append] at enough
  rw [List.append_assoc]
  exact reads (by omega) closed (found _) rfl

/-- Where a length is left open the reader goes on with the content up to a stop. -/
theorem reads_open_append {major : Nat} {content : Bytes}
    (reads : ∀ {fuel suffix shared}, 2 * content.length < fuel →
      readItem (fuel + 1) place
          ⟨lead major openLength :: (content ++ stop :: suffix), none, shared⟩ =
        some (item, ⟨suffix, none, shared⟩)) :
    Reads place (lead major openLength :: content ++ [stop]) item := by
  rw [List.cons_append]
  apply reads_of_first
  intro fuel shared suffix enough
  rw [List.length_append] at enough
  rw [List.append_assoc, List.singleton_append]
  exact reads (by omega)

/-! Branches of the reader by the first byte. -/

section Branches

-- Every branch opens the reader, so its equations are made here once for all of them.
attribute [local simp] readItem

variable {fuel bits length : Nat} {rest middle suffix : Bytes} {shared : List Shared}

theorem read_item_natural {value : Nat} (closed : bits < openLength)
    (argument : readArgument bits rest = some (value, suffix)) :
    readItem (fuel + 1) place ⟨lead 0 bits :: rest, none, shared⟩ =
      some (.int value, ⟨suffix, none, shared⟩) := by
  have within : bits < 32 := Nat.lt_trans closed (by decide)
  rw [readItem]
  simp only [major_lead (show 0 < 8 by decide) within, bits_lead (show 0 < 8 by decide) within,
    if_true, Option.bind_eq_bind]
  rw [bind_of_some argument]
  rfl

theorem read_item_negative {value : Nat} (closed : bits < openLength)
    (argument : readArgument bits rest = some (value, suffix)) :
    readItem (fuel + 1) place ⟨lead 1 bits :: rest, none, shared⟩ =
      some (.int (.negSucc value), ⟨suffix, none, shared⟩) := by
  have within : bits < 32 := Nat.lt_trans closed (by decide)
  have number : -1 - (value : Int) = .negSucc value := by omega
  rw [readItem]
  simp only [major_lead (show 1 < 8 by decide) within, bits_lead (show 1 < 8 by decide) within,
    Nat.reduceEqDiff, if_true, if_false, Option.bind_eq_bind]
  rw [bind_of_some argument, number]
  rfl

theorem read_item_bytes {bytes : Bytes} (closed : bits < openLength)
    (argument : readArgument bits rest = some (length, middle))
    (fixed : readFixed length middle = some (bytes, suffix)) :
    readItem (fuel + 1) place ⟨lead 2 bits :: rest, none, shared⟩ =
      some (.bytes bytes, ⟨suffix, none, shared⟩) := by
  have within : bits < 32 := Nat.lt_trans closed (by decide)
  have different : bits ≠ openLength := Nat.ne_of_lt closed
  rw [readItem]
  simp only [major_lead (show 2 < 8 by decide) within, bits_lead (show 2 < 8 by decide) within,
    different, Nat.reduceEqDiff, if_true, if_false, Option.bind_eq_bind]
  rw [bind_of_some argument, bind_of_some fixed]
  rfl

theorem read_item_bytes_parts {parts : List Bytes}
    (reads : readParts 2 fuel rest = some (parts, suffix)) :
    readItem (fuel + 1) place ⟨lead 2 openLength :: rest, none, shared⟩ =
      some (.bytes parts.flatten, ⟨suffix, none, shared⟩) := by
  have within : openLength < 32 := by decide
  rw [readItem]
  simp only [major_lead (show 2 < 8 by decide) within, bits_lead (show 2 < 8 by decide) within,
    Nat.reduceEqDiff, if_true, if_false, Option.bind_eq_bind]
  rw [bind_of_some reads]
  rfl

theorem read_item_text {bytes : Bytes} {text : String} (closed : bits < openLength)
    (argument : readArgument bits rest = some (length, middle))
    (fixed : readFixed length middle = some (bytes, suffix))
    (decodes : Text.decodeUtf8 bytes = some text) :
    readItem (fuel + 1) place ⟨lead 3 bits :: rest, none, shared⟩ =
      some (.text text, ⟨suffix, none, shared⟩) := by
  have within : bits < 32 := Nat.lt_trans closed (by decide)
  have different : bits ≠ openLength := Nat.ne_of_lt closed
  rw [readItem]
  simp only [major_lead (show 3 < 8 by decide) within, bits_lead (show 3 < 8 by decide) within,
    different, Nat.reduceEqDiff, if_true, if_false, Option.bind_eq_bind]
  rw [bind_of_some argument, bind_of_some fixed, bind_of_some decodes]
  rfl

theorem read_item_text_parts {parts : List Bytes} {text : String}
    (reads : readParts 3 fuel rest = some (parts, suffix))
    (joins : joinTexts parts = some text) :
    readItem (fuel + 1) place ⟨lead 3 openLength :: rest, none, shared⟩ =
      some (.text text, ⟨suffix, none, shared⟩) := by
  have within : openLength < 32 := by decide
  rw [readItem]
  simp only [major_lead (show 3 < 8 by decide) within, bits_lead (show 3 < 8 by decide) within,
    Nat.reduceEqDiff, if_true, if_false, Option.bind_eq_bind]
  rw [bind_of_some reads, bind_of_some joins]
  rfl

variable {inside : Place} {source : Source}

theorem read_item_list {items : List Item} (closed : bits < openLength)
    (inner : place.inner? = some inside) (plain : place.number = none)
    (argument : readArgument bits rest = some (length, middle))
    (reads : readItems fuel inside length ⟨middle, none, shared⟩ = some (items, source)) :
    readItem (fuel + 1) place ⟨lead 4 bits :: rest, none, shared⟩ =
      some (place.list items, source) := by
  have within : bits < 32 := Nat.lt_trans closed (by decide)
  have different : bits ≠ openLength := Nat.ne_of_lt closed
  rw [readItem]
  simp only [major_lead (show 4 < 8 by decide) within, bits_lead (show 4 < 8 by decide) within,
    different, Nat.reduceEqDiff, if_true, if_false, Option.bind_eq_bind, Place.begin, plain,
    Source.before]
  rw [bind_of_some inner, bind_of_some argument, bind_of_some reads]

theorem read_item_list_to_stop {items : List Item}
    (inner : place.inner? = some inside) (plain : place.number = none)
    (reads : readItemsToStop fuel inside ⟨rest, none, shared⟩ = some (items, source)) :
    readItem (fuel + 1) place ⟨lead 4 openLength :: rest, none, shared⟩ =
      some (place.list items, source) := by
  have within : openLength < 32 := by decide
  rw [readItem]
  simp only [major_lead (show 4 < 8 by decide) within, bits_lead (show 4 < 8 by decide) within,
    Nat.reduceEqDiff, if_true, if_false, Option.bind_eq_bind, Place.begin, plain, Source.before]
  rw [bind_of_some inner, bind_of_some reads]

theorem read_item_map {entries : List (Item × Item)} (closed : bits < openLength)
    (inner : place.inner? = some inside) (plain : place.number = none)
    (argument : readArgument bits rest = some (length, middle))
    (reads : readEntries fuel inside length ⟨middle, none, shared⟩ = some (entries, source))
    (made : place.map? entries = some item) :
    readItem (fuel + 1) place ⟨lead 5 bits :: rest, none, shared⟩ = some (item, source) := by
  have within : bits < 32 := Nat.lt_trans closed (by decide)
  have different : bits ≠ openLength := Nat.ne_of_lt closed
  rw [readItem]
  simp only [major_lead (show 5 < 8 by decide) within, bits_lead (show 5 < 8 by decide) within,
    different, Nat.reduceEqDiff, if_true, if_false, Option.bind_eq_bind, Place.begin, plain,
    Source.before]
  rw [bind_of_some inner, bind_of_some argument, bind_of_some reads, bind_of_some made]

theorem read_item_map_to_stop {entries : List (Item × Item)}
    (inner : place.inner? = some inside) (plain : place.number = none)
    (reads : readEntriesToStop fuel inside ⟨rest, none, shared⟩ = some (entries, source))
    (made : place.map? entries = some item) :
    readItem (fuel + 1) place ⟨lead 5 openLength :: rest, none, shared⟩ = some (item, source) := by
  have within : openLength < 32 := by decide
  rw [readItem]
  simp only [major_lead (show 5 < 8 by decide) within, bits_lead (show 5 < 8 by decide) within,
    Nat.reduceEqDiff, if_true, if_false, Option.bind_eq_bind, Place.begin, plain, Source.before]
  rw [bind_of_some inner, bind_of_some reads, bind_of_some made]

theorem read_item_tagged {number : Nat} {tag : Tag} {content : Item} (closed : bits < openLength)
    (inner : place.inner? = some inside)
    (argument : readArgument bits rest = some (number, middle))
    (ordinary : number ∉ [stringReferenceTag, shareTag, referenceTag, countedTag])
    (known : Tag.ofNumber? number = some tag)
    (reads : readItem fuel inside.asFixed ⟨middle, none, shared⟩ = some (content, source))
    (made : tag.make? place.fixed content = some item) :
    readItem (fuel + 1) place ⟨lead 6 bits :: rest, none, shared⟩ = some (item, source) := by
  have within : bits < 32 := Nat.lt_trans closed (by decide)
  simp only [List.mem_cons, List.not_mem_nil, or_false, not_or] at ordinary
  obtain ⟨string, share, reference, counted⟩ := ordinary
  rw [readItem]
  simp only [major_lead (show 6 < 8 by decide) within, bits_lead (show 6 < 8 by decide) within,
    Nat.reduceEqDiff, if_true, if_false, Option.bind_eq_bind, Source.before]
  rw [bind_of_some argument, bind_of_some inner]
  simp only [string, share, reference, counted, known, if_false]
  rw [bind_of_some reads, bind_of_some made]

end Branches

/-! Byte strings and texts. -/

theorem length_flat_map_encode_part (major : Nat) (parts : List Bytes) :
    parts.length ≤ (parts.flatMap (encodePart major)).length := by
  induction parts with
  | nil => exact Nat.le_refl 0
  | cons part parts induction =>
      have filled := List.length_pos_iff.mpr (head_ne_nil major part.length)
      simp only [List.flatMap_cons, encodePart, List.length_append, List.length_cons]
      omega

theorem read_parts_encode_part {major : Nat} (kind : major < 7) {parts : List Bytes}
    (fit : ∀ part ∈ parts, part.length < Nat.pow 2 64) {fuel : Nat}
    (enough : parts.length < fuel) (suffix : Bytes) :
    readParts major fuel (parts.flatMap (encodePart major) ++ stop :: suffix) =
      some (parts, suffix) := by
  induction parts generalizing fuel with
  | nil =>
      obtain ⟨fuel, rfl⟩ : ∃ less, fuel = less + 1 := ⟨fuel - 1, by omega⟩
      rfl
  | cons part parts induction =>
      obtain ⟨fuel, rfl⟩ : ∃ less, fuel = less + 1 := ⟨fuel - 1, by omega⟩
      rw [List.length_cons] at enough
      obtain ⟨bits, rest, closed, written, argument⟩ :=
        exists_lead_of_head major (fit part List.mem_cons_self)
      have within : bits < 32 := Nat.lt_trans closed (by decide)
      have later := induction (fun other member => fit other (List.mem_cons_of_mem _ member))
        (show parts.length < fuel by omega)
      rw [List.flatMap_cons, encodePart, written]
      simp only [List.cons_append, List.append_assoc]
      rw [readParts]
      simp only [lead_ne_stop kind within, major_lead (show major < 8 by omega) within,
        bits_lead (show major < 8 by omega) within, if_true, if_false, Option.bind_eq_bind]
      rw [bind_of_some (argument _), bind_of_some (read_fixed_append part _), bind_of_some later]

/-- A byte string or a text is read in either form, if the reader makes the same of its whole and
of its parts. -/
theorem reads_encode_parts {major : Nat} (kind : major < 7) {parts : List Bytes}
    (fit : ∀ part ∈ parts, part.length < Nat.pow 2 64)
    (whole : ∀ {fuel bits length rest middle suffix shared}, bits < openLength →
      readArgument bits rest = some (length, middle) →
      readFixed length middle = some (parts.flatten, suffix) →
      readItem (fuel + 1) place ⟨lead major bits :: rest, none, shared⟩ =
        some (item, ⟨suffix, none, shared⟩))
    (apart : ∀ {fuel rest suffix shared}, readParts major fuel rest = some (parts, suffix) →
      readItem (fuel + 1) place ⟨lead major openLength :: rest, none, shared⟩ =
        some (item, ⟨suffix, none, shared⟩)) :
    Reads place (encodeParts major parts) item := by
  unfold encodeParts
  split
  · next fits =>
      apply reads_head_append fits
      rintro fuel bits rest _ suffix shared - closed argument rfl
      exact whole closed argument (read_fixed_append _ suffix)
  · apply reads_open_append
    intro fuel suffix shared enough
    have fewer := length_flat_map_encode_part major parts
    exact apart (read_parts_encode_part kind fit (by omega) suffix)

theorem reads_byte_string (place : Place) (bytes : Bytes) :
    Reads place (encodeByteString bytes) (.bytes bytes) := by
  have whole : (bytes.map fun value => [value]).flatten = bytes := by
    rw [← List.flatMap_def, List.flatMap_singleton']
  apply reads_encode_parts (by decide)
  · intro part member
    obtain ⟨value, -, rfl⟩ := List.mem_map.mp member
    exact show 1 < Nat.pow 2 64 by decide
  · intro fuel bits length rest middle suffix shared closed argument fixed
    rw [whole] at fixed
    exact read_item_bytes closed argument fixed
  · intro fuel rest suffix shared reads
    rw [read_item_bytes_parts reads, whole]

theorem join_texts_encode_char (chars : List Char) :
    joinTexts (chars.map Text.encodeChar) = some (String.ofList chars) := by
  induction chars with
  | nil => rfl
  | cons char chars induction =>
      have single := Text.decode_utf8_encode_utf8 (String.ofList [char])
      have bytes : Text.encodeUtf8 (String.ofList [char]) = Text.encodeChar char := by
        unfold Text.encodeUtf8 Text.encodeChars
        rw [String.toList_ofList, List.flatMap_singleton]
      rw [bytes] at single
      simp only [List.map_cons, joinTexts, Option.bind_eq_bind]
      rw [bind_of_some single, bind_of_some induction, ← String.ofList_append,
        List.singleton_append]

theorem length_encode_char (char : Char) : (Text.encodeChar char).length ≤ 4 := by
  fun_cases Text.encodeChar char <;> simp

theorem reads_text (place : Place) (text : String) :
    Reads place (encodeText text) (.text text) := by
  have whole : (text.toList.map Text.encodeChar).flatten = Text.encodeUtf8 text := by
    rw [← List.flatMap_def]
    rfl
  have joins := join_texts_encode_char text.toList
  rw [String.ofList_toList] at joins
  apply reads_encode_parts (by decide)
  · intro part member
    obtain ⟨char, -, rfl⟩ := List.mem_map.mp member
    exact Nat.lt_of_le_of_lt (length_encode_char char) (by decide)
  · intro fuel bits length rest middle suffix shared closed argument fixed
    rw [whole] at fixed
    exact read_item_text closed argument fixed (Text.decode_utf8_encode_utf8 text)
  · intro fuel rest suffix shared reads
    exact read_item_text_parts reads joins

/-! Whole numbers. -/

/-- A number of more than 64 bits is written as bytes under a tag. -/
theorem reads_tagged_bytes {number : Nat} {tag : Tag} {bytes : Bytes} (room : place.room ≠ 0)
    (small : number < 24) (known : Tag.ofNumber? number = some tag)
    (made : tag.make? place.fixed (.bytes bytes) = some item) :
    Reads place (head 6 number ++ encodeByteString bytes) item := by
  have fits : number < Nat.pow 2 64 := Nat.lt_trans small (by decide)
  have ordinary : number ∉ [stringReferenceTag, shareTag, referenceTag, countedTag] := by
    simp only [stringReferenceTag, shareTag, referenceTag, countedTag, List.mem_cons,
      List.not_mem_nil, or_false, not_or]
    omega
  apply reads_head_append fits
  rintro fuel bits rest _ suffix shared enough closed argument rfl
  exact read_item_tagged closed (by rw [Place.inner?, if_neg room]) argument ordinary known
    (reads_byte_string _ bytes fuel shared suffix (by omega)) made

theorem reads_head {major argument : Nat} (fits : argument < Nat.pow 2 64)
    (reads : ∀ {fuel bits rest suffix shared}, bits < openLength →
      readArgument bits rest = some (argument, suffix) →
      readItem (fuel + 1) place ⟨lead major bits :: rest, none, shared⟩ =
        some (item, ⟨suffix, none, shared⟩)) : Reads place (head major argument) item := by
  rw [← List.append_nil (head major argument)]
  apply reads_head_append fits
  rintro fuel bits rest _ suffix shared - closed argument rfl
  exact reads closed argument

theorem reads_integer (room : place.room ≠ 0) (value : Int) :
    Reads place (encodeInteger value) (.int value) := by
  have big (value : Nat) := of_big_endian_big_endian (lt_byte_width value)
  cases value with
  | ofNat value =>
      show Reads place (encodeNatural 0 2 value) _
      unfold encodeNatural
      split
      · next fits => exact reads_head fits read_item_natural
      · apply reads_tagged_bytes room (by decide) (show Tag.ofNumber? 2 = some .natural from rfl)
        simp only [Tag.make?, big]
        rfl
  | negSucc value =>
      have number : -1 - (value : Int) = .negSucc value := by omega
      show Reads place (encodeNatural 1 3 value) _
      unfold encodeNatural
      split
      · next fits => exact reads_head fits read_item_negative
      · apply reads_tagged_bytes room (by decide) (show Tag.ofNumber? 3 = some .negative from rfl)
        simp only [Tag.make?, big, number]

end NodeBridge.Cbor
