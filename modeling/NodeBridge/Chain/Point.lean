import NodeBridge.Cbor.Field
import NodeBridge.Cbor.Variant
import NodeBridge.Decode.Field
import NodeBridge.Json.Printer
import NodeBridge.Text.CharClass

/-!
Positions on the chain. A point is a symbolic name such as the origin, or the block of a
slot. Points have three forms: as a document, as the text of one, and as a binary variant,
which is how checkpoints keep them. They are offered and kept in the order of their ranks.
-/

namespace NodeBridge

/-- A block on the chain. The points of rollbacks leave the height out. -/
structure BlockPoint where
  id : String
  slot : Int
  height : Option Int
deriving DecidableEq, Inhabited, Repr

inductive Point where
  | symbolic (name : String)
  | structural (block : BlockPoint)
deriving DecidableEq, Repr

namespace BlockPoint

def ofJson (json : Json) : Decoded BlockPoint := do
  let fields ← Decode.object "point" json
  let id ← Decode.text "point.id" (Json.get fields "id")
  let slot ← Decode.integer "point.slot" (Json.get fields "slot")
  let height ← Decode.optional (Decode.integer "point.height") (Json.get fields "height")
  .ok ⟨id, slot, height⟩

def fields (point : BlockPoint) : Fields :=
  (match point.height with
    | some height => [("height", .int height)]
    | none => []) ++
  Json.compact [] [("id", .text point.id), ("slot", .int point.slot)]

def toJson (point : BlockPoint) : Json := .object point.fields

def text (point : BlockPoint) : String :=
  s!"slot={Text.integerText point.slot} id={point.id}" ++
    match point.height with
    | some height => s!" block={Text.integerText height}"
    | none => ""

def ofItem (item : Cbor.Item) : Decoded BlockPoint := do
  let entries ← Cbor.Field.entries "point" item
  let id ← Cbor.Field.text "point.id" (Cbor.Field.get entries "id")
  let slot ← Cbor.Field.integer "point.slot" (Cbor.Field.get entries "slot")
  let height ← Cbor.Field.optionalInteger "point.height" (Cbor.Field.get entries "height")
  .ok ⟨id, slot, height⟩

end BlockPoint

namespace Point

/-- Whether a number of the point has too many digits to be written. -/
def isTooLong : Point → Bool
  | .symbolic _ => false
  | .structural block => Text.isTooLong block.slot || Text.isTooLong (block.height.getD 0)

def origin : Point := .symbolic "origin"

def ofJson : Json → Decoded Point
  | .text name => .ok (.symbolic name)
  | json => (BlockPoint.ofJson json).map .structural

def toJson : Point → Json
  | .symbolic name => .text name
  | .structural block => block.toJson

def text : Point → String
  | .symbolic name => name
  | .structural block => block.text

/-- The text of the document, in ASCII. -/
def asciiText (point : Point) : String := point.toJson.asciiText

/-- Writes the text, unless a number would have too many digits. -/
def written (point : Point) : Decoded String :=
  if point.isTooLong then .error .numberTooLong else .ok point.asciiText

/-- Reads the text of a document after the blanks in front of it. The first character
tells a symbolic point from a structural one. -/
def ofChars (input : List Char) : Decoded Point :=
  match Text.dropBlank input with
  | [] => .error .pointEmpty
  | first :: rest =>
      match Json.readDocument (first :: rest) with
      | none => .error (.pointNotJson (String.ofList (first :: rest)))
      | some json =>
          if first = '"' then
            match json with
            | .text name => .ok (.symbolic name)
            | other => (BlockPoint.ofJson other).map .structural
          else (BlockPoint.ofJson json).map .structural

def ofText (content : String) : Decoded Point := ofChars content.toList

def ofBytes (bytes : Bytes) : Decoded Point :=
  match Text.decodeChars bytes with
  | some input => ofChars input
  | none => .error .pointNotUtf8

def symbolicTag : Int := 1

def structuralTag : Int := 2

def tag : Point → Int
  | .symbolic _ => symbolicTag
  | .structural _ => structuralTag

def toCbor (point : Point) : Bytes := Cbor.encodeVariant point.tag point.toJson

def ofVariant (tag value : Cbor.Item) : Decoded Point :=
  if tag.whole? = some symbolicTag then (Cbor.Field.text "point" value).map .symbolic
  else if tag.whole? = some structuralTag then (BlockPoint.ofItem value).map .structural
  else do .error (.pointVariant (← tag.shown))

def ofCbor (bytes : Bytes) : Decoded (Option Point) := do
  match ← Cbor.decodeVariant bytes with
  | none => .ok none
  | some (tag, value) => (ofVariant tag value).map some

/-! The order in which points are offered and kept. Sorting keeps the order of points that rank
alike. -/

/-- Whether a point may stand before another one: structural points come first, the later slot
before the earlier one, then symbolic points, the greater name before the smaller one. -/
def ranksBefore : Point → Point → Bool
  | .structural left, .structural right => right.slot ≤ left.slot
  | .structural _, .symbolic _ => true
  | .symbolic _, .structural _ => false
  | .symbolic left, .symbolic right => !decide (left < right)

def sorted (points : List Point) : List Point := points.mergeSort ranksBefore

/-- Points in words, one after the other. -/
def listText (points : List Point) : String := ", ".intercalate (points.map text)

end Point

end NodeBridge
