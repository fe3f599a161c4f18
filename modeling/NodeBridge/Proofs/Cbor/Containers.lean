import NodeBridge.Proofs.Cbor.Reading

/-!
Lists and maps are read with all that was written into them, both where their length stands in
front and where it is left open up to a stop.
-/

namespace NodeBridge.Cbor

variable {place inside : Place} {item : Item} {bytes : Bytes}

theorem Reads.ne_nil (reads : Reads place bytes item) : bytes ≠ [] := by
  rintro rfl
  have none := reads 0 [] [] (by simp)
  cases none

/-- No item begins with a stop. -/
theorem Reads.exists_first (reads : Reads place bytes item) :
    ∃ first rest, bytes = first :: rest ∧ first ≠ stop := by
  obtain ⟨first, rest, rfl⟩ := List.exists_cons_of_ne_nil reads.ne_nil
  refine ⟨first, rest, rfl, ?_⟩
  rintro rfl
  have read := reads (2 * rest.length + 1 + 1) [] [] (by simp only [List.length_cons]; omega)
  have major : stop.toNat / 32 = 7 := rfl
  have bits : stop.toNat % 32 = openLength := rfl
  have constant (input : Bytes) : readConstant openLength input = none := rfl
  rw [List.cons_append, readItem] at read
  simp [major, bits, constant] at read

/-- Items one after the other, with their number known or a stop behind them. -/
structure ReadsItems (place : Place) (bytes : Bytes) (items : List Item) : Prop where
  counted : ∀ fuel shared suffix, 2 * bytes.length < fuel →
    readItems fuel place items.length ⟨bytes ++ suffix, none, shared⟩ =
      some (items, ⟨suffix, none, shared⟩)
  stopped : ∀ fuel shared suffix, 2 * bytes.length < fuel →
    readItemsToStop fuel place ⟨bytes ++ stop :: suffix, none, shared⟩ =
      some (items, ⟨suffix, none, shared⟩)

theorem reads_items_nil (place : Place) : ReadsItems place [] [] := by
  constructor <;> intro fuel shared suffix enough <;>
    obtain ⟨fuel, rfl⟩ : ∃ less, fuel = less + 1 := ⟨fuel - 1, by omega⟩
  · rw [readItems]
    rfl
  · rw [readItemsToStop]
    rfl

theorem reads_items_cons {first others : Bytes} {items : List Item}
    (head : Reads place first item) (tail : ReadsItems place others items) :
    ReadsItems place (first ++ others) (item :: items) := by
  have filled := List.length_pos_iff.mpr head.ne_nil
  constructor <;> intro fuel shared suffix enough <;>
    rw [List.length_append] at enough <;>
    obtain ⟨fuel, rfl⟩ : ∃ less, fuel = less + 1 := ⟨fuel - 1, by omega⟩ <;>
    rw [List.append_assoc]
  · have read := head fuel shared (others ++ suffix) (by omega)
    have later := tail.counted fuel shared suffix (by omega)
    rw [List.length_cons, readItems]
    simp only [Nat.add_eq_zero_iff, Nat.one_ne_zero, and_false, if_false, Nat.add_sub_cancel,
      Option.bind_eq_bind]
    rw [bind_of_some read, bind_of_some later]
  · have read := head fuel shared (others ++ stop :: suffix) (by omega)
    have later := tail.stopped fuel shared suffix (by omega)
    obtain ⟨char, rest, rfl, other⟩ := head.exists_first
    rw [List.cons_append] at read ⊢
    rw [readItemsToStop]
    simp only [other, if_false, Option.bind_eq_bind]
    rw [bind_of_some read, bind_of_some later]

/-- A container is read in either form, if the reader makes the same of its content behind a
number and before a stop. -/
theorem reads_encode_container {major count : Nat} {content : Bytes}
    (counted : ∀ {fuel bits rest middle suffix shared}, 2 * content.length < fuel →
      bits < openLength → readArgument bits rest = some (count, middle) →
      middle = content ++ suffix →
      readItem (fuel + 1) place ⟨lead major bits :: rest, none, shared⟩ =
        some (item, ⟨suffix, none, shared⟩))
    (stopped : ∀ {fuel suffix shared}, 2 * content.length < fuel →
      readItem (fuel + 1) place
          ⟨lead major openLength :: (content ++ stop :: suffix), none, shared⟩ =
        some (item, ⟨suffix, none, shared⟩)) :
    Reads place (encodeContainer major count content) item := by
  unfold encodeContainer
  split
  · next fits => exact reads_head_append fits counted
  · exact reads_open_append stopped

theorem reads_list {content : Bytes} {items : List Item} (plain : place.number = none)
    (inner : place.inner? = some inside) (reads : ReadsItems inside content items) :
    Reads place (encodeContainer 4 items.length content) (place.list items) := by
  apply reads_encode_container
  · rintro fuel bits rest _ suffix shared enough closed argument rfl
    exact read_item_list closed inner plain argument (reads.counted fuel shared suffix enough)
  · intro fuel suffix shared enough
    exact read_item_list_to_stop inner plain (reads.stopped fuel shared suffix enough)

/-! Maps. -/

/-- Entries one after the other, each a key and its value. -/
structure ReadsEntries (place : Place) (bytes : Bytes) (entries : List (Item × Item)) : Prop where
  counted : ∀ fuel shared suffix, 2 * bytes.length < fuel →
    readEntries fuel place entries.length ⟨bytes ++ suffix, none, shared⟩ =
      some (entries, ⟨suffix, none, shared⟩)
  stopped : ∀ fuel shared suffix, 2 * bytes.length < fuel →
    readEntriesToStop fuel place ⟨bytes ++ stop :: suffix, none, shared⟩ =
      some (entries, ⟨suffix, none, shared⟩)

theorem reads_entries_nil (place : Place) : ReadsEntries place [] [] := by
  constructor <;> intro fuel shared suffix enough <;>
    obtain ⟨fuel, rfl⟩ : ∃ less, fuel = less + 1 := ⟨fuel - 1, by omega⟩
  · rw [readEntries]
    rfl
  · rw [readEntriesToStop]
    rfl

theorem reads_entries_cons {keyBytes valueBytes others : Bytes} {key value : Item}
    {entries : List (Item × Item)} (first : Reads place.asFixed keyBytes key)
    (second : Reads place valueBytes value) (tail : ReadsEntries place others entries) :
    ReadsEntries place (keyBytes ++ valueBytes ++ others) ((key, value) :: entries) := by
  have filled := List.length_pos_iff.mpr first.ne_nil
  constructor <;> intro fuel shared suffix enough <;>
    simp only [List.length_append] at enough <;>
    obtain ⟨fuel, rfl⟩ : ∃ less, fuel = less + 1 := ⟨fuel - 1, by omega⟩ <;>
    rw [List.append_assoc, List.append_assoc]
  · have readKey := first fuel shared (valueBytes ++ (others ++ suffix)) (by omega)
    have readValue := second fuel shared (others ++ suffix) (by omega)
    have later := tail.counted fuel shared suffix (by omega)
    rw [List.length_cons, readEntries]
    simp only [Nat.add_eq_zero_iff, Nat.one_ne_zero, and_false, if_false, Nat.add_sub_cancel,
      Option.bind_eq_bind]
    rw [bind_of_some readKey, bind_of_some readValue, bind_of_some later]
  · have readKey := first fuel shared (valueBytes ++ (others ++ stop :: suffix)) (by omega)
    have readValue := second fuel shared (others ++ stop :: suffix) (by omega)
    have later := tail.stopped fuel shared suffix (by omega)
    obtain ⟨char, rest, rfl, other⟩ := first.exists_first
    rw [List.cons_append] at readKey ⊢
    rw [readEntriesToStop]
    simp only [other, if_false, Option.bind_eq_bind]
    rw [bind_of_some readKey, bind_of_some readValue, bind_of_some later]

theorem reads_map {content : Bytes} {entries : List (Item × Item)} (plain : place.number = none)
    (inner : place.inner? = some inside) (reads : ReadsEntries inside content entries)
    (made : place.map? entries = some item) :
    Reads place (encodeContainer 5 entries.length content) item := by
  apply reads_encode_container
  · rintro fuel bits rest _ suffix shared enough closed argument rfl
    exact read_item_map closed inner plain argument (reads.counted fuel shared suffix enough) made
  · intro fuel suffix shared enough
    exact read_item_map_to_stop inner plain (reads.stopped fuel shared suffix enough) made

end NodeBridge.Cbor
