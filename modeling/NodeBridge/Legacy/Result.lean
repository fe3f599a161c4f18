import NodeBridge.Legacy.Block

/-!
Results of requests in the legacy schema and their conversion both ways. Each result is
wrapped in the name of its variant, and the fields inside may begin with a capital letter.
-/

namespace NodeBridge.Legacy

def variantField (fields : Fields) (name capital : String) : Json :=
  if Json.has fields name then Json.get fields name else Json.get fields capital

def optionalTip (json : Json) : Decoded (Option BlockPoint) :=
  Decode.optional BlockPoint.ofJson json

/-- The name and the value of the first of some variants that is there. -/
def firstVariant? (fields : Fields) : List String → Option (String × Json)
  | [] => none
  | name :: names =>
      let value := Json.get fields name
      if value.isNull then firstVariant? fields names else some (name, value)

inductive IntersectionResult where
  | found (point : Option Point) (tip : Option BlockPoint)
  | notFound (tip : Option BlockPoint)
deriving DecidableEq

namespace IntersectionResult

def foundName : String := "IntersectionFound"

def notFoundName : String := "IntersectionNotFound"

def variantNames : List String := [foundName, notFoundName]

def readVariant (name : String) (json : Json) : Decoded IntersectionResult :=
  if name = foundName then do
    let fields ← Decode.object foundName json
    let point ← Decode.optional Point.ofJson (variantField fields "point" "Point")
    let tip ← optionalTip (variantField fields "tip" "Tip")
    .ok (.found point tip)
  else do
    let fields ← Decode.object notFoundName json
    let tip ← optionalTip (variantField fields "tip" "Tip")
    .ok (.notFound tip)

def ofJson (json : Json) : Decoded IntersectionResult := do
  let what := "v5 findIntersection result"
  let fields ← Decode.object what json
  match firstVariant? fields variantNames with
  | some (name, value) => readVariant name value
  | none => .error (.noVariant what variantNames)

def toJson : IntersectionResult → Json
  | .found point tip =>
      .object [(foundName, .object (Json.compact [] [
        ("point", Json.ofOption Point.toJson point),
        ("tip", Json.ofOption BlockPoint.toJson tip)]))]
  | .notFound tip =>
      .object [(notFoundName, .object (Json.compact [] [
        ("tip", Json.ofOption BlockPoint.toJson tip)]))]

/-- The code of the error for points that are not on the chain. -/
def notFoundCode : Int := 1000

def notFoundMessage : String := "Intersection not found"

def convertedMessage : String := "Intersection not found - Conversion from a v5 Ogmigo call"

/-- The error for points that are not on the chain; the tip of the chain is its data. -/
def notFoundError (message : String) (tip : Option BlockPoint) : Current.ErrorReport :=
  ⟨notFoundCode, message, Json.ofOption NodeBridge.BlockPoint.toJson (tip.map BlockPoint.toCurrent),
    .null⟩

def toCurrent : IntersectionResult → Current.IntersectionResult
  | .found point tip => ⟨point.map Point.toCurrent, tip.map BlockPoint.toCurrent, none, .null⟩
  | .notFound tip =>
      ⟨none, tip.map BlockPoint.toCurrent, some (notFoundError notFoundMessage tip), .null⟩

/-- The object that may hold a tip: the one under that name, or the data as a whole. -/
def tipFields (fields : Fields) : Fields :=
  match Json.get fields "tip" with
  | .object inner => inner
  | _ => fields

/-- The tip in the data of an error, in the words of either schema. Data that hold no tip,
or one that cannot be read, give none. -/
def tipOfData : Json → Option BlockPoint
  | .object fields =>
      let inner := tipFields fields
      if Json.has inner "hash" || Json.has inner "blockNo" then
        (BlockPoint.ofJson (.object inner)).toOption
      else if Json.has inner "id" || Json.has inner "slot" || Json.has inner "height" then
        (NodeBridge.BlockPoint.ofJson (.object inner)).toOption.map BlockPoint.ofCurrent
      else none
  | _ => none

/-- Nothing if the result holds neither an intersection nor an error. -/
def ofCurrent? (result : Current.IntersectionResult) : Option IntersectionResult :=
  match result.intersection, result.error with
  | some point, _ =>
      some (.found (some (Point.ofCurrent point)) (result.tip.map BlockPoint.ofCurrent))
  | none, some error => some (.notFound (tipOfData error.data))
  | none, none => none

end IntersectionResult

inductive BlockResult where
  | rollForward (block : EraBlock) (tip : BlockPoint)
  | rollBackward (point : Point) (tip : BlockPoint)
deriving DecidableEq

namespace BlockResult

def forwardName : String := "RollForward"

def backwardName : String := "RollBackward"

def variantNames : List String := [forwardName, backwardName]

def readVariant (name : String) (json : Json) : Decoded BlockResult :=
  if name = forwardName then do
    let fields ← Decode.object forwardName json
    let block ← EraBlock.ofJson (variantField fields "block" "Block")
    let tip ← BlockPoint.ofJson (variantField fields "tip" "Tip")
    .ok (.rollForward block tip)
  else do
    let fields ← Decode.object backwardName json
    match ← Decode.optional Point.ofJson (variantField fields "point" "Point") with
    | none => .error .rollBackwardPointMissing
    | some point => do
        let tip ← BlockPoint.ofJson (variantField fields "tip" "Tip")
        .ok (.rollBackward point tip)

def ofJson (json : Json) : Decoded BlockResult := do
  let what := "v5 nextBlock result"
  let fields ← Decode.object what json
  match firstVariant? fields variantNames with
  | some (name, value) => readVariant name value
  | none => .error (.noVariant what variantNames)

def toJson : BlockResult → Json
  | .rollForward block tip =>
      .object [(forwardName, .object [("block", block.toJson), ("tip", tip.toJson)])]
  | .rollBackward point tip =>
      .object [(backwardName, .object [("point", point.toJson), ("tip", tip.toJson)])]

def toCurrent : BlockResult → Converted Current.BlockResult
  | .rollForward block tip => do
      let block ← block.toCurrent
      .ok ⟨Current.forward, some tip.toCurrent, some block, none⟩
  | .rollBackward point tip =>
      .ok ⟨Current.backward, some tip.toCurrent, none, some point.toCurrent⟩

/-- The tip of a result; a missing one is an empty one. -/
def tipOfCurrent (tip : Option NodeBridge.BlockPoint) : BlockPoint :=
  (tip.map BlockPoint.ofCurrent).getD BlockPoint.empty

/-- Nothing if the direction is not known. -/
def ofCurrent? (result : Current.BlockResult) : Converted (Option BlockResult) :=
  if result.direction = Current.forward then
    match result.block with
    | none => .error (.decode .forwardWithoutBlock)
    | some block => do
        let block ← EraBlock.ofCurrent block
        .ok (some (.rollForward block (tipOfCurrent result.tip)))
  else if result.direction = Current.backward then
    match result.point with
    | none => .error (.decode .backwardWithoutPoint)
    | some point => .ok (some (.rollBackward (Point.ofCurrent point) (tipOfCurrent result.tip)))
  else .ok none

end BlockResult

inductive Result where
  | intersection (result : IntersectionResult)
  | block (result : BlockResult)
deriving DecidableEq

namespace Result

def variantNames : List String := IntersectionResult.variantNames ++ BlockResult.variantNames

def readVariant (name : String) (json : Json) : Decoded Result :=
  if IntersectionResult.variantNames.contains name then
    (IntersectionResult.readVariant name json).map .intersection
  else (BlockResult.readVariant name json).map .block

def ofJson (json : Json) : Decoded Result := do
  let what := "v5 result"
  let fields ← Decode.object what json
  match firstVariant? fields variantNames with
  | some (name, value) => readVariant name value
  | none => .error (.noVariant what variantNames)

def toJson : Result → Json
  | .intersection result => result.toJson
  | .block result => result.toJson

def toCurrent : Result → Converted Current.Result
  | .intersection result => .ok (.intersection result.toCurrent)
  | .block result => result.toCurrent.map .block

end Result

end NodeBridge.Legacy
