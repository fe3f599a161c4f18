import NodeBridge.Current.Block

/-!
Answers of the node in the current schema. A response belongs to a method and holds a
result or an error. Asking a response for the result of another method is a misuse, which
is told apart from documents that cannot be read.
-/

namespace NodeBridge

/-- A result was asked for that the response does not hold. -/
structure Misuse where
  wanted : String
  got : String
deriving DecidableEq, Repr

def Misuse.message (misuse : Misuse) : String :=
  s!"expected {misuse.wanted} response, got method {Text.quoted misuse.got}"

namespace Current

structure ErrorReport where
  code : Int
  message : String
  data : Json
  id : Json
deriving DecidableEq

namespace ErrorReport

def ofJson (json : Json) : Decoded ErrorReport := do
  let fields ← Decode.object "error" json
  let code ← Decode.integer "error.code" (Json.get fields "code")
  let message ← Decode.text "error.message" (Json.get fields "message")
  .ok ⟨code, message, Json.get fields "data", Json.get fields "id"⟩

def toJson (report : ErrorReport) : Json :=
  .object (Json.compact [] [("code", .int report.code), ("message", .text report.message),
    ("data", report.data), ("id", report.id)])

end ErrorReport

/-- Where the chain of the node and the offered points meet, or why they do not. -/
structure IntersectionResult where
  intersection : Option Point
  tip : Option BlockPoint
  error : Option ErrorReport
  id : Json
deriving DecidableEq

namespace IntersectionResult

def ofJson (json : Json) : Decoded IntersectionResult := do
  let fields ← Decode.object "findIntersection result" json
  let intersection ← Decode.optional Point.ofJson (Json.get fields "intersection")
  let tip ← Decode.optional BlockPoint.ofJson (Json.get fields "tip")
  let error ← Decode.optional ErrorReport.ofJson (Json.get fields "error")
  .ok ⟨intersection, tip, error, Json.get fields "id"⟩

def toJson (result : IntersectionResult) : Json :=
  .object (Json.compact [] [("intersection", Json.ofOption Point.toJson result.intersection),
    ("tip", Json.ofOption BlockPoint.toJson result.tip),
    ("error", Json.ofOption ErrorReport.toJson result.error), ("id", result.id)])

end IntersectionResult

def forward : String := "forward"

def backward : String := "backward"

/-- One step along the chain: a block forward, or back to a point. -/
structure BlockResult where
  direction : String
  tip : Option BlockPoint
  block : Option Block
  point : Option Point
deriving DecidableEq

namespace BlockResult

def ofJson (json : Json) : Decoded BlockResult := do
  let fields ← Decode.object "nextBlock result" json
  let direction ← Decode.text "nextBlock.direction" (Json.get fields "direction")
  let tip ← Decode.optional BlockPoint.ofJson (Json.get fields "tip")
  let block ← Decode.optional Block.ofJson (Json.get fields "block")
  let point ← Decode.optional Point.ofJson (Json.get fields "point")
  .ok ⟨direction, tip, block, point⟩

def toJson (result : BlockResult) : Json :=
  .object (Json.compact [] [("direction", .text result.direction),
    ("tip", Json.ofOption BlockPoint.toJson result.tip),
    ("block", Json.ofOption Block.toJson result.block),
    ("point", Json.ofOption Point.toJson result.point)])

end BlockResult

inductive Result where
  | intersection (result : IntersectionResult)
  | block (result : BlockResult)
deriving DecidableEq

def Result.toJson : Result → Json
  | .intersection result => result.toJson
  | .block result => result.toJson

def findIntersection : String := "findIntersection"

def nextBlock : String := "nextBlock"

/-- The current name of a method that is known by a current or a legacy name. -/
def knownMethod? (name : String) : Option String :=
  if name = findIntersection ∨ name = "FindIntersect" then some findIntersection
  else if name = nextBlock ∨ name = "RequestNext" then some nextBlock
  else none

structure Response where
  jsonrpc : String
  method : String
  result : Option Result
  error : Option ErrorReport
  id : Json
deriving DecidableEq

namespace Response

def readResult (method : String) (json : Json) : Decoded Result :=
  if method = findIntersection then (IntersectionResult.ofJson json).map .intersection
  else (BlockResult.ofJson json).map .block

def ofJson (json : Json) : Decoded Response := do
  let fields ← Decode.object "response" json
  let name ← Decode.text "response.method" (Json.get fields "method")
  let jsonrpc ← Decode.text "response.jsonrpc" (Json.get fields "jsonrpc")
  let id := Json.get fields "id"
  match ← Decode.optional ErrorReport.ofJson (Json.get fields "error") with
  | some error => .ok ⟨jsonrpc, (knownMethod? name).getD name, none, some error, id⟩
  | none =>
      match knownMethod? name with
      | none => .error (.unknownMethod name)
      | some method => do
          let result ← readResult method (Json.get fields "result")
          .ok ⟨jsonrpc, method, some result, none, id⟩

def toJson (response : Response) : Json :=
  .object (Json.compact [] [("jsonrpc", .text response.jsonrpc),
    ("method", .text response.method), ("result", Json.ofOption Result.toJson response.result),
    ("error", Json.ofOption ErrorReport.toJson response.error), ("id", response.id)])

/-- The result of a response to the search for an intersection. An error counts as a
result that carries it. -/
def intersectionResult (response : Response) : Except Misuse IntersectionResult :=
  if response.method ≠ findIntersection then .error ⟨findIntersection, response.method⟩
  else
    match response.result, response.error with
    | some (.intersection result), _ => .ok result
    | none, some error => .ok ⟨none, none, some error, response.id⟩
    | _, _ => .error ⟨findIntersection, response.method⟩

def blockResult (response : Response) : Except Misuse BlockResult :=
  if response.method ≠ nextBlock then .error ⟨nextBlock, response.method⟩
  else
    match response.result with
    | some (.block result) => .ok result
    | _ => .error ⟨nextBlock, response.method⟩

end Response

end Current

end NodeBridge
