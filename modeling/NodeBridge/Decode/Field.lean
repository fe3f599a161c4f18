import NodeBridge.Decode.Error
import NodeBridge.Json.Reader
import NodeBridge.Text.Utf8

/-!
Reading the fields of documents. A missing or null field stands for the empty value of its
kind. Whole numbers may also come as doubles without a fraction.
-/

namespace NodeBridge.Decode

def object (what : String) : Json → Decoded Fields
  | .null => .ok []
  | .object fields => .ok fields
  | other => .error (.unexpected what .object other.kind)

def list (what : String) : Json → Decoded (List Json)
  | .null => .ok []
  | .list items => .ok items
  | other => .error (.unexpected what .list other.kind)

def text (what : String) : Json → Decoded String
  | .null => .ok ""
  | .text value => .ok value
  | other => .error (.unexpected what .text other.kind)

def integer (what : String) : Json → Decoded Int
  | .null => .ok 0
  | .bool _ => .error (.truthForNumber what)
  | .int value => .ok value
  | .float number =>
      match number.toInt? with
      | some value => .ok value
      | none => .error (.notWhole what (Json.shown (.float number)))
  | other => .error (.notWhole what other.shown)

/-- Nothing for null, and otherwise what the reader makes of the value. -/
def optional {α : Type} (read : Json → Decoded α) : Json → Decoded (Option α)
  | .null => .ok none
  | value => (read value).map some

/-- Reads all items in order, up to the first failure. -/
def each {α : Type} (read : Json → Decoded α) : List Json → Decoded (List α)
  | [] => .ok []
  | item :: items => do
      let value ← read item
      let values ← each read items
      .ok (value :: values)

/-- Reads the values of all fields in order, up to the first failure. -/
def entries {α : Type} (read : String → Json → Decoded α) : Fields → Decoded (List (String × α))
  | [] => .ok []
  | (name, value) :: fields => do
      let value ← read name value
      let values ← entries read fields
      .ok ((name, value) :: values)

def map {α : Type} (what : String) (read : String → Json → Decoded α) (value : Json) :
    Decoded (OrderedMap String α) := do
  let fields ← object what value
  let values ← entries read fields
  .ok (OrderedMap.ofList values)

def listOf {α : Type} (what : String) (read : Json → Decoded α) (value : Json) :
    Decoded (List α) := do
  let items ← list what value
  each read items

def parseText (content : String) : Decoded Json :=
  match Json.readDocument content.toList with
  | some value => .ok value
  | none => .error .invalidJson

def parseBytes (bytes : Bytes) : Decoded Json :=
  match Text.decodeUtf8 bytes with
  | some content => parseText content
  | none => .error .invalidUtf8

end NodeBridge.Decode
