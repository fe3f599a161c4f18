import NodeBridge.Proofs.Document.Escapes
import NodeBridge.Proofs.Document.Numerals

/-!
Documents are read as they were written. A document comes back whole if its objects have distinct
names and its numbers are whole and short enough to be written, whichever characters are written
as escapes. The reader never runs out of fuel on what was written.
-/

namespace NodeBridge.Json

mutual

/-- Whether a document holds no double, no whole number that is too long to be written, and no
object with two fields of one name. -/
def IsLegible : Json → Prop
  | .int value => Text.isTooLong value = false
  | .float _ => False
  | .list items => AreLegible items
  | .object fields => (fields.map Prod.fst).Nodup ∧ AreFieldsLegible fields
  | _ => True

def AreLegible : List Json → Prop
  | [] => True
  | item :: items => IsLegible item ∧ AreLegible items

def AreFieldsLegible : Fields → Prop
  | [] => True
  | (_, value) :: fields => IsLegible value ∧ AreFieldsLegible fields

end

theorem are_fields_legible_iff {fields : Fields} :
    AreFieldsLegible fields ↔ ∀ field ∈ fields, field.2.IsLegible := by
  induction fields with
  | nil => simp [AreFieldsLegible]
  | cons field fields induction => rw [AreFieldsLegible, induction, List.forall_mem_cons]

/-- Whether nothing follows, or what stands behind a value inside of another one. -/
def EndsValue (rest : List Char) : Prop := ∀ char ∈ rest.head?, char ∈ [',', ']', '}']

theorem EndsValue.endsNumber {rest : List Char} (ends : EndsValue rest) : EndsNumber rest := by
  intro char first
  have closing := ends char first
  simp only [List.mem_cons, List.not_mem_nil, or_false] at closing
  rcases closing with rfl | rfl | rfl <;> decide

theorem drop_space_cons {char : Char} (visible : isSpace char = false) (rest : List Char) :
    dropSpace (char :: rest) = char :: rest := by
  simp [dropSpace, visible]

section

variable {escape : Char → List Char} {fuel : Nat}

/-- Whether a value is read from what is written for it, with fuel for twice its length. A value
inside of a list or an object costs the reader two steps, one for the value and one for the rest
of what it is in. -/
def ReadsBack (escape : Char → List Char) (json : Json) : Prop :=
  ∀ fuel rest, 2 * (write escape json).length ≤ fuel → EndsValue rest →
    readValue fuel (write escape json ++ rest) = some (json, rest)

/-! Values begin with a character that the reader does not pass over. -/

/-- The first character of a value tells it from white space and from the end of a list. -/
structure OpensValue (char : Char) : Prop where
  visible : isSpace char = false
  going : char ≠ ']'

theorem opens_value_of_digit {char : Char} (digit : isDigit char = true) : OpensValue char := by
  constructor
  · simp only [isSpace, Bool.or_eq_false_iff, decide_eq_false_iff_not]
    refine ⟨⟨⟨?_, ?_⟩, ?_⟩, ?_⟩ <;>
    · rintro rfl
      cases digit
  · rintro rfl
    cases digit

theorem exists_digit (value : Nat) :
    ∃ first rest, Text.naturalDigits value = first :: rest ∧ isDigit first = true := by
  cases written : Text.naturalDigits value with
  | nil => exact absurd written Nat.toDigits_ne_nil
  | cons first rest =>
      have member : first ∈ Text.naturalDigits value := by simp [written]
      exact ⟨first, rest, rfl, Text.is_digit_of_mem_natural_digits member⟩

theorem exists_opening (escape : Char → List Char) {json : Json} (legible : json.IsLegible) :
    ∃ first rest, write escape json = first :: rest ∧ OpensValue first := by
  cases json with
  | null => exact ⟨_, _, rfl, ⟨rfl, by decide⟩⟩
  | bool value => cases value <;> exact ⟨_, _, rfl, ⟨rfl, by decide⟩⟩
  | int value =>
      cases value with
      | ofNat value =>
          obtain ⟨first, rest, written, digit⟩ := exists_digit value
          exact ⟨first, rest, written, opens_value_of_digit digit⟩
      | negSucc value => exact ⟨_, _, rfl, ⟨rfl, by decide⟩⟩
  | float value => exact legible.elim
  | text value => exact ⟨_, _, rfl, ⟨rfl, by decide⟩⟩
  | list items => cases items <;> exact ⟨_, _, rfl, ⟨rfl, by decide⟩⟩
  | object fields => cases fields <;> exact ⟨_, _, rfl, ⟨rfl, by decide⟩⟩

theorem drop_space_write (escape : Char → List Char) {json : Json} (legible : json.IsLegible)
    (rest : List Char) :
    dropSpace (write escape json ++ rest) = write escape json ++ rest := by
  obtain ⟨first, more, written, opens⟩ := exists_opening escape legible
  rw [written, List.cons_append, drop_space_cons opens.visible]

/-- No value is written with nothing, so the fuel lasts for one step at least. -/
theorem reads_back_of_succ {json : Json} (legible : json.IsLegible)
    (reads : ∀ fuel rest, 2 * (write escape json).length ≤ fuel + 1 → EndsValue rest →
      readValue (fuel + 1) (write escape json ++ rest) = some (json, rest)) :
    ReadsBack escape json := by
  intro fuel rest enough ends
  cases fuel with
  | zero =>
      obtain ⟨first, more, written, -⟩ := exists_opening escape legible
      rw [written, List.length_cons] at enough
      omega
  | succ fuel => exact reads fuel rest enough ends

/-! The parts of a value, one after the other. -/

theorem ends_value_items (escape : Char → List Char) (items : List Json) (rest : List Char) :
    EndsValue (writeItems escape items ++ rest) := by
  intro char first
  cases items <;> cases first <;> simp

theorem ends_value_fields (escape : Char → List Char) (fields : Fields) (rest : List Char) :
    EndsValue (writeFields escape fields ++ rest) := by
  intro char first
  obtain - | ⟨⟨name, value⟩, fields⟩ := fields <;> cases first <;> simp

theorem read_items_write {item : Json} {items : List Json} (rest : List Char)
    (legible : AreLegible (item :: items)) (reads : ∀ part ∈ item :: items, ReadsBack escape part)
    (enough : 2 * (write escape item ++ writeItems escape items).length ≤ fuel) :
    readItems fuel (write escape item ++ (writeItems escape items ++ rest)) =
      some (item :: items, rest) := by
  induction items generalizing item fuel with
  | nil =>
      -- The bracket that ends the list pays for this step, as the comma does for the others.
      simp only [writeItems, List.length_append, List.length_singleton] at enough
      obtain ⟨fuel, rfl⟩ := Nat.exists_eq_succ_of_ne_zero (show fuel ≠ 0 by omega)
      have first := reads item List.mem_cons_self fuel _ (by omega)
        (ends_value_items escape [] rest)
      unfold readItems
      rw [first]
      rfl
  | cons next items induction =>
      simp only [writeItems, List.length_append, List.length_cons] at enough
      obtain ⟨fuel, rfl⟩ := Nat.exists_eq_succ_of_ne_zero (show fuel ≠ 0 by omega)
      have first := reads item List.mem_cons_self fuel _ (by omega)
        (ends_value_items escape (next :: items) rest)
      have later : readItems fuel (write escape next ++ (writeItems escape items ++ rest)) =
          some (next :: items, rest) := by
        apply induction legible.2
        · intro part member
          exact reads part (List.mem_cons_of_mem _ member)
        · rw [List.length_append]
          omega
      have visible := drop_space_write escape legible.2.1 (writeItems escape items ++ rest)
      have comma : dropSpace (writeItems escape (next :: items) ++ rest) =
          ',' :: (write escape next ++ (writeItems escape items ++ rest)) := by
        simp [writeItems, dropSpace, isSpace]
      unfold readItems
      rw [first]
      simp only [Option.bind_eq_bind, Option.bind_some, comma, visible, later]

theorem drop_space_field (name : String) (rest : List Char) :
    dropSpace (writeText escape name ++ rest) = writeText escape name ++ rest :=
  drop_space_cons rfl _

/-- One field is read, and what follows its value decides how the reader goes on. -/
theorem read_fields_cons (escapes : ReadsEscapes escape) {name : String} {value : Json}
    {fields : Fields} {more suffix : List Char} (legible : value.IsLegible)
    (reads : ReadsBack escape value) (enough : 2 * (write escape value).length ≤ fuel)
    (ends : EndsValue more)
    (goes : dropSpace more = '}' :: suffix ∧ fields = [] ∨ ∃ rest, dropSpace more = ',' :: rest ∧
      readFields fuel (dropSpace rest) = some (fields, suffix)) :
    readFields (fuel + 1) (writeText escape name ++ ':' :: (write escape value ++ more)) =
      some ((name, value) :: fields, suffix) := by
  have written : writeText escape name ++ ':' :: (write escape value ++ more) =
      '"' :: (name.toList.flatMap escape ++ '"' :: ':' :: (write escape value ++ more)) := by
    simp [writeText]
  rw [written, readFields.eq_def]
  simp only [read_text_write escapes, Option.bind_eq_bind, Option.bind_some]
  rw [drop_space_cons rfl]
  simp only [drop_space_write escape legible, reads fuel more enough ends, Option.bind_some]
  rcases goes with ⟨closes, rfl⟩ | ⟨rest, comma, later⟩
  · simp only [closes]
  · simp only [comma, later, Option.bind_some]

theorem read_fields_write (escapes : ReadsEscapes escape) {name : String} {value : Json}
    {fields : Fields} (rest : List Char) (legible : AreFieldsLegible ((name, value) :: fields))
    (reads : ∀ field ∈ (name, value) :: fields, ReadsBack escape field.2)
    (enough : 2 * (write escape value ++ writeFields escape fields).length ≤ fuel) :
    readFields fuel (writeText escape name ++ ':' :: (write escape value ++
      (writeFields escape fields ++ rest))) = some ((name, value) :: fields, rest) := by
  induction fields generalizing name value fuel with
  | nil =>
      simp only [writeFields, List.length_append, List.length_singleton] at enough
      obtain ⟨fuel, rfl⟩ := Nat.exists_eq_succ_of_ne_zero (show fuel ≠ 0 by omega)
      have first : ReadsBack escape value := reads _ List.mem_cons_self
      exact read_fields_cons escapes legible.1 first (by omega) (ends_value_fields escape [] rest)
        (.inl ⟨rfl, rfl⟩)
  | cons next fields induction =>
      obtain ⟨nextName, nextValue⟩ := next
      simp only [writeFields, List.length_append, List.length_cons] at enough
      obtain ⟨fuel, rfl⟩ := Nat.exists_eq_succ_of_ne_zero (show fuel ≠ 0 by omega)
      have first : ReadsBack escape value := reads _ List.mem_cons_self
      have comma : dropSpace (writeFields escape ((nextName, nextValue) :: fields) ++ rest) =
          ',' :: (writeText escape nextName ++ ':' :: (write escape nextValue ++
            (writeFields escape fields ++ rest))) := by
        simp [writeFields, dropSpace, isSpace]
      apply read_fields_cons escapes legible.1 first (by omega) (ends_value_fields escape _ rest)
      refine .inr ⟨_, comma, ?_⟩
      rw [drop_space_field]
      apply induction legible.2
      · intro field member
        exact reads field (List.mem_cons_of_mem _ member)
      · rw [List.length_append]
        omega

/-! The values themselves. -/

/-- Behind a sign or not, a digit makes a value a number. -/
theorem read_value_number {first : Char} {rest input : List Char}
    (digit : isDigit first = true) (begins : input = first :: rest ∨ input = '-' :: first :: rest) :
    readValue (fuel + 1) input = readNumber input := by
  rw [readValue.eq_def]
  rcases begins with rfl | rfl
  all_goals
    dsimp only
    split
  all_goals first
    | rfl
    | next same => cases same <;> cases digit

theorem reads_back_int {value : Int} (legible : (int value).IsLegible) :
    ReadsBack escape (int value) := by
  apply reads_back_of_succ legible
  intro fuel rest enough ends
  have number := read_number_integer_digits legible ends.endsNumber
  cases value with
  | ofNat value =>
      obtain ⟨first, more, written, digit⟩ := exists_digit value
      have begins : write escape (int (.ofNat value)) ++ rest = first :: (more ++ rest) := by
        simp [write, Text.integerDigits, written]
      rw [read_value_number digit (.inl begins)]
      exact number
  | negSucc value =>
      obtain ⟨first, more, written, digit⟩ := exists_digit (value + 1)
      have begins : write escape (int (.negSucc value)) ++ rest =
          '-' :: first :: (more ++ rest) := by
        simp [write, Text.integerDigits, written]
      rw [read_value_number digit (.inr begins)]
      exact number

theorem reads_back_text (escapes : ReadsEscapes escape) (value : String) :
    ReadsBack escape (text value) := by
  have legible : (text value).IsLegible := trivial
  apply reads_back_of_succ legible
  intro fuel rest enough ends
  have begins : write escape (text value) ++ rest =
      '"' :: (value.toList.flatMap escape ++ '"' :: rest) := by
    simp [write, writeText]
  rw [begins, readValue.eq_def]
  simp only [read_text_write escapes]
  rfl

theorem reads_back_list {items : List Json} (legible : (list items).IsLegible)
    (reads : ∀ item ∈ items, ReadsBack escape item) : ReadsBack escape (list items) := by
  apply reads_back_of_succ legible
  intro fuel rest enough ends
  cases items with
  | nil => rfl
  | cons item items =>
      simp only [write, List.length_cons, List.cons_append] at enough
      have inner := read_items_write rest legible reads (show _ ≤ fuel by omega)
      obtain ⟨first, more, written, opens⟩ := exists_opening escape legible.1
      have begins : write escape (list (item :: items)) ++ rest =
          '[' :: (write escape item ++ (writeItems escape items ++ rest)) := by
        simp [write]
      rw [begins, readValue.eq_def]
      simp only [drop_space_write escape legible.1]
      split
      · -- Only an empty list has its end behind the bracket.
        next same =>
          rw [written] at same
          cases same
          exact absurd rfl opens.going
      · rw [inner]
        rfl

theorem reads_back_object (escapes : ReadsEscapes escape) {fields : Fields}
    (legible : (object fields).IsLegible) (reads : ∀ field ∈ fields, ReadsBack escape field.2) :
    ReadsBack escape (object fields) := by
  apply reads_back_of_succ legible
  intro fuel rest enough ends
  cases fields with
  | nil => rfl
  | cons field fields =>
      obtain ⟨name, value⟩ := field
      simp only [write, List.length_cons, List.length_append, List.cons_append] at enough
      have inner := read_fields_write escapes rest legible.2 reads
        (show _ ≤ fuel by rw [List.length_append]; omega)
      have begins : write escape (object ((name, value) :: fields)) ++ rest =
          '{' :: (writeText escape name ++ ':' :: (write escape value ++
            (writeFields escape fields ++ rest))) := by
        simp [write]
      rw [begins, readValue.eq_def]
      simp only [drop_space_field]
      split
      · next same => cases same
      · rw [inner]
        simp only [Option.bind_eq_bind, Option.bind_some, OrderedMap.entries_of_list legible.1]

mutual

theorem reads_back_of_legible (escapes : ReadsEscapes escape) :
    ∀ {json : Json}, json.IsLegible → ReadsBack escape json
  | .null, legible => reads_back_of_succ legible fun _ _ _ _ => rfl
  | .bool value, legible => reads_back_of_succ legible fun _ _ _ _ => by cases value <;> rfl
  | .int _, legible => reads_back_int legible
  | .float _, illegible => illegible.elim
  | .text value, _ => reads_back_text escapes value
  | .list _, legible => reads_back_list legible (items_read_back_of_legible escapes legible)
  | .object _, legible =>
      reads_back_object escapes legible (fields_read_back_of_legible escapes legible.2)

theorem items_read_back_of_legible (escapes : ReadsEscapes escape) :
    ∀ {items : List Json}, AreLegible items → ∀ item ∈ items, ReadsBack escape item
  | [], _ => fun _ member => nomatch member
  | _ :: _, legible => List.forall_mem_cons.mpr
      ⟨reads_back_of_legible escapes legible.1, items_read_back_of_legible escapes legible.2⟩

theorem fields_read_back_of_legible (escapes : ReadsEscapes escape) :
    ∀ {fields : Fields}, AreFieldsLegible fields → ∀ field ∈ fields, ReadsBack escape field.2
  | [], _ => fun _ member => nomatch member
  | (_, _) :: _, legible => List.forall_mem_cons.mpr
      ⟨reads_back_of_legible escapes legible.1, fields_read_back_of_legible escapes legible.2⟩

end

/-- What is written is a document of its own, and it is read as the one it was written for. -/
theorem read_document_write (escapes : ReadsEscapes escape) {json : Json}
    (legible : json.IsLegible) : readDocument (write escape json) = some json := by
  have whole := drop_space_write escape legible []
  have read := reads_back_of_legible escapes legible (2 * (write escape json).length + 1) []
    (by omega) (fun _ first => nomatch first)
  rw [List.append_nil] at whole read
  unfold readDocument
  rw [whole, read]
  rfl

end

/-- A document is read as it was written, in either form. -/
theorem read_document_texts {json : Json} (legible : json.IsLegible) :
    readDocument json.plainText.toList = some json ∧
      readDocument json.asciiText.toList = some json := by
  unfold plainText asciiText
  rw [String.toList_ofList, String.toList_ofList]
  exact ⟨read_document_write reads_plain_escapes legible,
    read_document_write reads_ascii_escapes legible⟩

end NodeBridge.Json
