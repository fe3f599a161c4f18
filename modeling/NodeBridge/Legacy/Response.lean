import NodeBridge.Legacy.Result

/-!
Responses in the legacy schema and their conversion both ways. What a request sends as a
reflection comes back in the answer, and stands for the identifier of the current schema.
-/

namespace NodeBridge.Legacy

structure Response where
  type : String
  version : String
  serviceName : String
  methodName : String
  result : Option Result
  reflection : Json
deriving DecidableEq

namespace Response

def ofJson (json : Json) : Decoded Response := do
  let fields ← Decode.object "v5 response" json
  let result := Json.get fields "result"
  if result.isNull then .error .legacyResultMissing
  else do
    let type ← Decode.text "type" (Json.get fields "type")
    let version ← Decode.text "version" (Json.get fields "version")
    let serviceName ← Decode.text "servicename" (Json.get fields "servicename")
    let methodName ← Decode.text "methodname" (Json.get fields "methodname")
    let result ← Result.ofJson result
    .ok ⟨type, version, serviceName, methodName, some result, Json.get fields "reflection"⟩

def toJson (response : Response) : Json :=
  .object (Json.compact [] [("type", .text response.type), ("version", .text response.version),
    ("servicename", .text response.serviceName), ("methodname", .text response.methodName),
    ("result", Json.ofOption Result.toJson response.result),
    ("reflection", response.reflection)])

/-- An intersection that was not found is an error in the current schema. -/
def toCurrent (response : Response) : Converted Current.Response :=
  match response.result with
  | some (.intersection (.notFound tip)) =>
      .ok ⟨"2.0", Current.findIntersection, none,
        some (IntersectionResult.notFoundError IntersectionResult.convertedMessage tip),
        response.reflection⟩
  | some (.intersection found) =>
      .ok ⟨"2.0", Current.findIntersection, some (.intersection found.toCurrent), none,
        response.reflection⟩
  | some (.block result) => do
      let result ← result.toCurrent
      .ok ⟨"2.0", Current.nextBlock, some (.block result), none, response.reflection⟩
  | none => .ok ⟨"2.0", "", none, none, response.reflection⟩

/-- The legacy name of a method; unknown names stay as they are. -/
def legacyMethod (name : String) : String :=
  if name = Current.findIntersection then "FindIntersect"
  else if name = Current.nextBlock then "RequestNext"
  else name

def resultOfCurrent (response : Current.Response) : Converted (Option Result) :=
  if response.method = Current.findIntersection then
    match response.intersectionResult with
    | .ok result => .ok ((IntersectionResult.ofCurrent? result).map .intersection)
    | .error misuse => .error (.misuse misuse)
  else if response.method = Current.nextBlock then
    match response.blockResult with
    | .ok result => do
        let result ← BlockResult.ofCurrent? result
        .ok (result.map .block)
    | .error misuse => .error (.misuse misuse)
  else .ok none

def ofCurrent (response : Current.Response) : Converted Response := do
  let result ← resultOfCurrent response
  .ok ⟨"response", "1.0", "ogmios", legacyMethod response.method, result, response.id⟩

end Response

end NodeBridge.Legacy
