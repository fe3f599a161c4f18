import NodeBridge.Legacy.Response
import NodeBridge.Proofs.Legacy.Transaction

/-!
Printed legacy responses are read back. Points, headers and blocks come back as they were;
of a response only its reflection may say nothing and is null then, and the transactions of
its block come back as printed transactions do.
-/

namespace NodeBridge.Legacy

open Json Decode

theorem BlockPoint.of_json_to_json (point : BlockPoint) : ofJson point.toJson = .ok point := by
  simp [ofJson, toJson, get_compact, get_cons]

theorem Point.of_json_to_json (point : Point) : ofJson point.toJson = .ok point := by
  cases point with
  | symbolic name => rfl
  | structural block =>
      have reads : ofJson block.toJson = (BlockPoint.ofJson block.toJson).map .structural := rfl
      unfold toJson
      rw [reads, BlockPoint.of_json_to_json]
      rfl

theorem Point.to_json_ne_null (point : Point) : point.toJson ≠ .null := by
  cases point with
  | symbolic name => simp [toJson]
  | structural block => simp [toJson, BlockPoint.toJson]

theorem Header.of_json_to_json (header : Header) : ofJson header.toJson = .ok header := by
  have texts (what : String) (map : OrderedMap String String) :
      Decode.map what (fun _ => text what) (ofMap .text map).settle = .ok map := by
    rw [map_settle]
    exact map_of_map_same what fun entry _ => text_text _ entry.2
  have integers (what : String) (map : OrderedMap String Int) :
      Decode.map what (fun _ => integer what) (ofMap .int map).settle = .ok map := by
    rw [map_settle]
    exact map_of_map_same what fun entry _ => integer_int _ entry.2
  simp [ofJson, toJson, get_compact, get_cons, texts, integers]

namespace Block

def settle (block : Block) : Block := { block with body := block.body.map Transaction.settle }

theorem of_json_to_json {block : Block}
    (readable : ∀ transaction ∈ block.body, transaction.witness.datums.Readable) :
    ofJson block.toJson = .ok block.settle := by
  have body : listOf "block.body" Transaction.ofJson
      (Json.list (block.body.map Transaction.toJson)).settle =
        .ok (block.body.map Transaction.settle) :=
    list_of_settle "block.body" fun transaction member =>
      Transaction.of_json_to_json (readable transaction member)
  have header : Header.ofJson block.header.toJson.settle = .ok block.header := by
    rw [← Header.of_json_to_json block.header]
    unfold Header.ofJson Header.toJson
    rw [object_settle, object_object]
  simp [ofJson, toJson, get_compact, get_cons, body, header, settle]

end Block

namespace EraBlock

theorem of_json_to_json (era : Era) {block : Block}
    (readable : ∀ transaction ∈ block.body, transaction.witness.datums.Readable) :
    ofJson (toJson (.ofEra era block)) = .ok (.ofEra era block.settle) := by
  have there : block.toJson.isNull = false := rfl
  have first : firstEra? [(era.name, block.toJson)] Era.all = some era := by
    cases era <;> simp [firstEra?, Era.all, Era.name, get_cons, there, is_null_null]
  have found : get [(era.name, block.toJson)] era.name = block.toJson := by
    rw [get_cons, if_pos rfl]
  unfold ofJson toJson
  rw [object_object, ok_bind, first]
  simp only [found, Block.of_json_to_json readable]
  rfl

end EraBlock

theorem first_variant_single {name : String} {value : Json} (there : value.isNull = false)
    {names : List String} (member : name ∈ names) :
    firstVariant? [(name, value)] names = some (name, value) := by
  induction names with
  | nil => cases member
  | cons head names induction =>
      unfold firstVariant?
      rw [get_cons]
      by_cases same : head = name
      · subst same
        simp [there]
      · have rest : name ∈ names := by
          rcases List.mem_cons.mp member with first | later
          · exact absurd first.symm same
          · exact later
        simp [same, is_null_null, induction rest]

namespace Result

theorem of_json_variant {name : String} {value : Json} (there : value.isNull = false)
    (member : name ∈ variantNames) :
    ofJson (.object [(name, value)]) = readVariant name value := by
  simp only [ofJson, object_object, ok_bind, first_variant_single there member]

theorem of_json_forward_of_again {block again : EraBlock} (tip : BlockPoint)
    (reads : EraBlock.ofJson block.toJson = .ok again) :
    ofJson (BlockResult.toJson (.rollForward block tip)) =
      .ok (.block (.rollForward again tip)) := by
  have name : IntersectionResult.variantNames.contains BlockResult.forwardName = false := by
    decide
  unfold BlockResult.toJson
  rw [of_json_variant rfl (by decide)]
  unfold readVariant
  rw [name, if_neg Bool.false_ne_true]
  unfold BlockResult.readVariant
  simp [variantField, Json.has, get_cons, reads, BlockPoint.of_json_to_json, Except.map]

theorem of_json_forward (era : Era) {block : Block} (tip : BlockPoint)
    (readable : ∀ transaction ∈ block.body, transaction.witness.datums.Readable) :
    ofJson (BlockResult.toJson (.rollForward (.ofEra era block) tip)) =
      .ok (.block (.rollForward (.ofEra era block.settle) tip)) :=
  of_json_forward_of_again tip (EraBlock.of_json_to_json era readable)

theorem of_json_backward (point : Point) (tip : BlockPoint) :
    ofJson (BlockResult.toJson (.rollBackward point tip)) =
      .ok (.block (.rollBackward point tip)) := by
  have name : IntersectionResult.variantNames.contains BlockResult.backwardName = false := by
    decide
  have other : BlockResult.backwardName ≠ BlockResult.forwardName := by decide
  have reads : optional Point.ofJson point.toJson = .ok (some point) := by
    rw [optional_of_ne_null point.to_json_ne_null, Point.of_json_to_json]
    rfl
  unfold BlockResult.toJson
  rw [of_json_variant rfl (by decide)]
  unfold readVariant
  rw [name, if_neg Bool.false_ne_true]
  unfold BlockResult.readVariant
  simp [other, variantField, Json.has, get_cons, reads, BlockPoint.of_json_to_json, Except.map]

end Result

namespace Response

theorem of_json_to_json {response : Response} {result returned : BlockResult}
    (holds : response.result = some (.block result))
    (reads : Result.ofJson result.toJson = .ok (.block returned)) :
    ofJson response.toJson = .ok { response with
      result := some (.block returned), reflection := response.reflection.settle } := by
  have full : result.toJson.isBare = false := by
    cases result <;> rfl
  have there : result.toJson.isNull = false := by
    cases result <;> rfl
  have printed : (ofOption Result.toJson response.result).settle = result.toJson := by
    rw [holds]
    exact settle_of_not_bare full
  simp [ofJson, toJson, get_compact, get_cons, printed, there, reads]

end Response

end NodeBridge.Legacy
