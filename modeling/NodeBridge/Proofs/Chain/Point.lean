import NodeBridge.Chain.Point
import NodeBridge.Proofs.Cbor.Document
import NodeBridge.Proofs.Current.Printed

/-!
Points survive their binary form, whatever their names and numbers are. No point is written as
what stands for the lack of one.
-/

namespace NodeBridge

open Cbor

/-- What is read of a document is read of its binary form. -/
theorem BlockPoint.of_item_of_json {json : Json} {point : BlockPoint}
    (reads : ofJson json = .ok point) : ofItem (Item.ofJson json) = .ok point := by
  simp only [ofJson, bind_eq_ok] at reads
  obtain ⟨fields, object, id, idRead, slot, slotRead, height, heightRead, same⟩ := reads
  cases same
  have entries : Cbor.Field.entries "point" (Item.ofJson json) =
      .ok (Item.ofJsonFields fields) := by
    cases json <;> cases object <;> rfl
  simp only [ofItem, entries, Decode.ok_bind, Field.get_of_json_fields, Field.text_of_json idRead,
    Field.integer_of_json slotRead, Field.optional_integer_of_json heightRead]

namespace BlockPoint

theorem fields_sublist (point : BlockPoint) :
    point.fields.Sublist [("height", .int (point.height.getD 0)), ("id", .text point.id),
      ("slot", .int point.slot)] := by
  unfold fields Json.compact
  cases point.height with
  | none => exact List.Sublist.cons _ List.filter_sublist
  | some height => exact List.Sublist.cons_cons _ List.filter_sublist

theorem nodup_names_of_fields (point : BlockPoint) : (point.fields.map Prod.fst).Nodup := by
  apply List.Nodup.sublist (point.fields_sublist.map Prod.fst)
  exact (by decide : ["height", "id", "slot"].Nodup)

theorem reads_of_mem_fields {place : Place} (room : place.room ≠ 0) {point : BlockPoint}
    {field : String × Json} (member : field ∈ point.fields) :
    Reads place (encode field.2) (Item.ofJson field.2) := by
  have named := point.fields_sublist.subset member
  simp only [List.mem_cons, List.not_mem_nil, or_false] at named
  rcases named with rfl | rfl | rfl
  · exact reads_integer room _
  · exact reads_text _ _
  · exact reads_integer room _

end BlockPoint

namespace Point

theorem reads_encode_to_json (point : Point) :
    Reads ⟨Place.nestingLimit - 1, false, none⟩ (encode point.toJson)
      (Item.ofJson point.toJson) := by
  cases point with
  | symbolic name => exact reads_text _ name
  | structural block =>
      apply reads_encode_object rfl rfl rfl block.nodup_names_of_fields
      intro field member
      exact BlockPoint.reads_of_mem_fields (by decide) member

theorem of_variant_to_json (point : Point) :
    ofVariant (.int point.tag) (Item.ofJson point.toJson) = .ok point := by
  cases point with
  | symbolic name => rfl
  | structural block =>
      have read := BlockPoint.of_item_of_json block.of_json_to_json
      show (BlockPoint.ofItem (Item.ofJson block.toJson)).map structural = _
      rw [read]
      rfl

theorem of_cbor_to_cbor (point : Point) : ofCbor point.toCbor = .ok (some point) := by
  have filled : point.toJson ≠ .null := by
    cases point <;> exact fun null => nomatch null
  unfold ofCbor toCbor
  rw [decode_variant_encode_variant point.tag filled rfl point.reads_encode_to_json]
  simp only [Decode.ok_bind, of_variant_to_json]
  rfl

theorem to_cbor_ne (point : Point) : point.toCbor ≠ [] ∧ point.toCbor ≠ nil :=
  encode_variant_ne point.tag point.toJson

/-- The binary form of a point is read back as that point, whatever its name and its numbers, and
no two points share one. It is neither empty nor what stands for no point. -/
theorem binary_form_faithful :
    (∀ point : Point, ofCbor point.toCbor = .ok (some point) ∧
      point.toCbor ≠ [] ∧ point.toCbor ≠ nil) ∧
    Function.Injective toCbor := by
  constructor
  · intro point
    exact ⟨point.of_cbor_to_cbor, point.to_cbor_ne⟩
  · intro left right same
    have read := left.of_cbor_to_cbor
    rw [same, right.of_cbor_to_cbor] at read
    exact (Option.some.inj (Except.ok.inj read)).symm

end Point

end NodeBridge
