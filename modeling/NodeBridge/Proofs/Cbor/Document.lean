import NodeBridge.Cbor.Field
import NodeBridge.Cbor.Variant
import NodeBridge.Proofs.Cbor.Containers
import NodeBridge.Proofs.Document.Printed
import NodeBridge.Proofs.Document.Read

/-!
Documents in binary form. An object comes back with its fields in their order, a variant with its
number and its value, and what can be read of a document is read of its binary form.
-/

namespace NodeBridge.Cbor

namespace Item

theorem same_key_text (left right : String) :
    sameKey (.text left) (.text right) = (left == right) := by
  simp [sameKey, sameLeaf]

theorem put_entry_text {name : String} (value : Item) {fields : Fields}
    (absent : name ∉ fields.map Prod.fst) :
    putEntry (.text name) value (ofJsonFields fields) =
      ofJsonFields fields ++ [(.text name, value)] := by
  induction fields with
  | nil => rfl
  | cons field fields induction =>
      rw [List.map_cons, List.mem_cons, not_or] at absent
      have other : (field.1 == name) = false := by simpa using fun same => absent.1 same.symm
      simp [ofJsonFields, putEntry, same_key_text, other, induction absent.2]

theorem of_json_fields_append (front back : Fields) :
    ofJsonFields (front ++ back) = ofJsonFields front ++ ofJsonFields back := by
  induction front with
  | nil => rfl
  | cons field front induction =>
      rw [List.cons_append, ofJsonFields, ofJsonFields, induction, List.cons_append]

theorem foldl_put_entry_text (done fields : Fields)
    (distinct : ((done ++ fields).map Prod.fst).Nodup) :
    (ofJsonFields fields).foldl (fun map entry => putEntry entry.1 entry.2 map)
      (ofJsonFields done) = ofJsonFields (done ++ fields) := by
  induction fields generalizing done with
  | nil => simp [ofJsonFields]
  | cons field fields induction =>
      have absent : field.1 ∉ done.map Prod.fst := not_mem_of_nodup_append distinct
      have written : putEntry (.text field.1) (ofJson field.2) (ofJsonFields done) =
          ofJsonFields (done ++ [field]) := by
        rw [put_entry_text _ absent, of_json_fields_append]
        rfl
      rw [ofJsonFields, List.foldl_cons, written, induction _ (by simpa using distinct),
        List.append_assoc, List.singleton_append]

/-- Fields of different names are all kept. -/
theorem written_entries_of_json_fields {fields : Fields}
    (distinct : (fields.map Prod.fst).Nodup) :
    writtenEntries (ofJsonFields fields) = ofJsonFields fields :=
  foldl_put_entry_text [] fields distinct

theorem all_fixed_of_json_fields (fields : Fields) :
    ((ofJsonFields fields).all fun entry => entry.1.isFixed) = true := by
  induction fields with
  | nil => rfl
  | cons field fields induction => simp [ofJsonFields, isFixed, induction]

theorem length_of_json_fields (fields : Fields) : (ofJsonFields fields).length = fields.length := by
  induction fields with
  | nil => rfl
  | cons field fields induction => rw [ofJsonFields, List.length_cons, induction, List.length_cons]

end Item

variable {place inside : Place}

theorem reads_entries_encode_fields {fields : Fields}
    (reads : ∀ field ∈ fields, Reads place (encode field.2) (Item.ofJson field.2)) :
    ReadsEntries place (encodeFields fields) (Item.ofJsonFields fields) := by
  induction fields with
  | nil => exact reads_entries_nil place
  | cons field fields induction =>
      rw [List.forall_mem_cons] at reads
      exact reads_entries_cons (reads_text _ field.1) reads.1 (induction reads.2)

theorem reads_encode_object {fields : Fields} (plain : place.number = none)
    (free : place.fixed = false) (inner : place.inner? = some inside)
    (distinct : (fields.map Prod.fst).Nodup)
    (reads : ∀ field ∈ fields, Reads inside (encode field.2) (Item.ofJson field.2)) :
    Reads place (encode (.object fields)) (Item.ofJson (.object fields)) := by
  have made : place.map? (Item.ofJsonFields fields) = some (Item.ofJson (.object fields)) := by
    unfold Place.map?
    rw [if_pos (Item.all_fixed_of_json_fields fields),
      Item.written_entries_of_json_fields distinct, free]
    rfl
  rw [encode, ← Item.length_of_json_fields]
  exact reads_map plain inner (reads_entries_encode_fields reads) made

/-! Variants. -/

theorem decode_of_reads {bytes : Bytes} {item : Item} (reads : Reads Place.outermost bytes item) :
    decode bytes = .ok item := by
  have read := reads (2 * bytes.length + 2) [] [] (by omega)
  rw [List.append_nil] at read
  unfold decode Source.ofBytes
  rw [read]

theorem first_of_encode_variant (tag : Int) (value : Json) :
    ∃ rest, encodeVariant tag value = lead 5 1 :: rest := by
  refine ⟨encodeInteger tag ++ encode value, ?_⟩
  unfold encodeVariant
  rw [List.append_assoc]
  rfl

/-- A variant is never taken for the lack of one. -/
theorem encode_variant_ne (tag : Int) (value : Json) :
    encodeVariant tag value ≠ [] ∧ encodeVariant tag value ≠ nil := by
  obtain ⟨rest, first⟩ := first_of_encode_variant tag value
  rw [first]
  constructor
  · exact List.cons_ne_nil _ _
  · intro same
    have other : lead 5 1 ≠ nil.head! := by decide
    exact other (congrArg List.head! same)

theorem reads_encode_variant (tag : Int) {value : Json}
    (inner : Place.outermost.inner? = some inside)
    (reads : Reads inside (encode value) (Item.ofJson value)) :
    Reads Place.outermost (encodeVariant tag value) (.map [(.int tag, Item.ofJson value)]) := by
  have room : inside.asFixed.room ≠ 0 := by
    cases inner
    decide
  have entries := reads_entries_cons (reads_integer room tag) reads (reads_entries_nil inside)
  have whole : encodeVariant tag value =
      encodeContainer 5 1 (encodeInteger tag ++ encode value ++ []) := by
    unfold encodeVariant encodeContainer
    rw [if_pos (show 1 < Nat.pow 2 64 by decide), List.append_nil, List.append_assoc]
  rw [whole]
  exact reads_map rfl inner entries rfl

theorem decode_variant_encode_variant (tag : Int) {value : Json} (filled : value ≠ .null)
    (inner : Place.outermost.inner? = some inside)
    (reads : Reads inside (encode value) (Item.ofJson value)) :
    decodeVariant (encodeVariant tag value) = .ok (some (.int tag, Item.ofJson value)) := by
  obtain ⟨some, other⟩ := encode_variant_ne tag value
  have there : (Item.ofJson value).isNull = false := by
    cases value <;> first | rfl | exact absurd rfl filled
  have decodes := decode_of_reads (reads_encode_variant tag inner reads)
  have single : variants [(.int tag, Item.ofJson value)] = [(.int tag, Item.ofJson value)] := by
    unfold variants
    rw [List.filter_cons, there]
    rfl
  unfold decodeVariant
  rw [if_neg (not_or.mpr ⟨some, other⟩), decodes]
  simp only [Decode.ok_bind, Item.unrolled, single]

/-! Reading the parts of a document. -/

namespace Field

theorem get_of_json_fields (fields : Fields) (name : String) :
    get (Item.ofJsonFields fields) name = Item.ofJson (Json.get fields name) := by
  have entry : Item.textEntry? name (Item.ofJsonFields fields) =
      (fields.lookup name).map Item.ofJson := by
    induction fields with
    | nil => rfl
    | cons field fields induction =>
        rw [Item.ofJsonFields, Item.textEntry?, induction, lookup_cons_entry]
        by_cases same : field.1 = name
        · rw [if_pos same, if_pos same.symm]
          rfl
        · rw [if_neg same, if_neg fun other => same other.symm]
  unfold get Json.get
  rw [entry]
  cases fields.lookup name <;> rfl

theorem text_of_json {what : String} {json : Json} {value : String}
    (reads : Decode.text what json = .ok value) : text what (Item.ofJson json) = .ok value := by
  cases json <;> exact reads

theorem integer_of_json {what : String} {json : Json} {value : Int}
    (reads : Decode.integer what json = .ok value) :
    integer what (Item.ofJson json) = .ok value := by
  cases json with
  | float number =>
      unfold Decode.integer at reads
      unfold Item.ofJson integer
      cases whole : number.toInt? <;> simp_all
  | _ => first | exact reads | cases reads

theorem optional_integer_of_json {what : String} {json : Json} {value : Option Int}
    (reads : Decode.optional (Decode.integer what) json = .ok value) :
    optionalInteger what (Item.ofJson json) = .ok value := by
  by_cases none : json = .null
  · subst none
    exact reads
  · have inner : (Decode.integer what json).map some = .ok value := by
      cases json <;> first | exact reads | exact absurd rfl none
    obtain ⟨number, found, rfl⟩ := map_eq_ok.mp inner
    have read := integer_of_json found
    have outer : optionalInteger what (Item.ofJson json) =
        (integer what (Item.ofJson json)).map some := by
      cases json <;> first | rfl | exact absurd rfl none
    rw [outer, read]
    rfl

end Field

end NodeBridge.Cbor
