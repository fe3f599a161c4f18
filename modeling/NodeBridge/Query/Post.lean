import NodeBridge.Json.Basic

/-!
What is posted for a query, and where. Queries go to the address of the bridge over plain
requests, so the scheme of a websocket is exchanged.
-/

namespace NodeBridge.Post

def body (method : String) (parameters id : Option Json) : Json :=
  .object ([("jsonrpc", .text "2.0"), ("method", .text method)] ++
    (match parameters with
      | some parameters => [("params", parameters)]
      | none => []) ++
    match id with
    | some id => [("id", id)]
    | none => [])

/-- A query in the legacy schema. -/
def legacyBody (method : String) (arguments : Json) : Json :=
  .object [("type", .text "jsonwsp/request"), ("version", .text "1.0"),
    ("servicename", .text "ogmios"), ("methodname", .text method), ("args", arguments)]

/-- What stands after a beginning, if the characters begin so. -/
def afterStart? : List Char → List Char → Option (List Char)
  | [], chars => some chars
  | _ :: _, [] => none
  | first :: start, char :: chars => if first = char then afterStart? start chars else none

def address (endpoint : String) : String :=
  match afterStart? "ws://".toList endpoint.toList with
  | some rest => "http://" ++ String.ofList rest
  | none =>
      match afterStart? "wss://".toList endpoint.toList with
      | some rest => "https://" ++ String.ofList rest
      | none => endpoint

end NodeBridge.Post
