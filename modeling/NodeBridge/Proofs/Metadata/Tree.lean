import NodeBridge.Metadata.Metadatum
import NodeBridge.Proofs.Text.Binary

/-!
Trees of metadata are read back as they were printed, however deep they are: one kind of node
after the other, the items of lists and the entries of maps along with them.
-/

namespace NodeBridge.Metadatum

mutual

theorem of_json_to_json : ∀ tree : Metadatum, ofJson tree.toJson = .ok tree
  | .int value => rfl
  | .text value => rfl
  | .bytes value => by
      have scalar : ofScalar? [("bytes", .text (Text.encodeHex value))] =
          some (.ok (.bytes value)) := by
        have read := Text.decode_hex_encode_hex value
        simp [ofScalar?, Json.get, List.lookup_cons, read]
      rw [toJson, ofJson, scalar]
  | .list items => by
      have field : ofListField? [("list", .list (toJsonItems items))] = some (.ok items) := by
        rw [ofListField?, if_pos rfl, of_items_to_json items]
      rw [toJson, ofJson, field]
      rfl
  | .map entries => by
      have field : ofMapField? [("map", .list (toJsonEntries entries))] = some (.ok entries) := by
        rw [ofMapField?, if_pos rfl, of_entries_to_json entries]
      rw [toJson, ofJson, field]
      rfl

theorem of_items_to_json : ∀ items : List Metadatum, ofItems (toJsonItems items) = .ok items
  | [] => rfl
  | item :: items => by
      rw [toJsonItems, ofItems, of_json_to_json item, of_items_to_json items]
      rfl

theorem of_entries_to_json : ∀ entries : List (Metadatum × Metadatum),
    ofEntries (toJsonEntries entries) = .ok entries
  | [] => rfl
  | (key, value) :: entries => by
      have entry : ofEntry (.object [("k", key.toJson), ("v", value.toJson)]) =
          .ok (key, value) := by
        have names : ¬"k" = "v" := by decide
        rw [ofEntry, ofField, if_pos rfl, of_json_to_json key, ofField, if_neg names, ofField,
          if_pos rfl, of_json_to_json value]
        rfl
      rw [toJsonEntries, ofEntries, entry, of_entries_to_json entries]
      rfl

end

end NodeBridge.Metadatum
