import NodeBridge.Chain.Point

/-!
Points in the legacy schema, which names the parts of a block in its own way and has no
difference between a missing height and height zero.
-/

namespace NodeBridge.Legacy

structure BlockPoint where
  blockNo : Int
  hash : String
  slot : Int
deriving DecidableEq, Inhabited, Repr

inductive Point where
  | symbolic (name : String)
  | structural (block : BlockPoint)
deriving DecidableEq, Repr

namespace BlockPoint

def empty : BlockPoint := ⟨0, "", 0⟩

def ofJson (json : Json) : Decoded BlockPoint := do
  let fields ← Decode.object "point" json
  let blockNo ← Decode.integer "point.blockNo" (Json.get fields "blockNo")
  let hash ← Decode.text "point.hash" (Json.get fields "hash")
  let slot ← Decode.integer "point.slot" (Json.get fields "slot")
  .ok ⟨blockNo, hash, slot⟩

def toJson (point : BlockPoint) : Json :=
  .object (Json.compact [] [("blockNo", .int point.blockNo), ("hash", .text point.hash),
    ("slot", .int point.slot)])

def text (point : BlockPoint) : String :=
  s!"slot={Text.integerText point.slot} hash={point.hash}"

/-- The current point with its height, unless that is zero. -/
def toCurrent (point : BlockPoint) : NodeBridge.BlockPoint :=
  ⟨point.hash, point.slot, if point.blockNo = 0 then none else some point.blockNo⟩

def ofCurrent (point : NodeBridge.BlockPoint) : BlockPoint :=
  ⟨point.height.getD 0, point.id, point.slot⟩

end BlockPoint

namespace Point

def ofJson : Json → Decoded Point
  | .text name => .ok (.symbolic name)
  | json => (BlockPoint.ofJson json).map .structural

def toJson : Point → Json
  | .symbolic name => .text name
  | .structural block => block.toJson

def text : Point → String
  | .symbolic name => name
  | .structural block => block.text

def asciiText (point : Point) : String := point.toJson.asciiText

def toCbor : Point → Bytes
  | .symbolic name => NodeBridge.Point.toCbor (.symbolic name)
  | .structural block => Cbor.encodeVariant NodeBridge.Point.structuralTag block.toJson

/-- The points of rollbacks and intersections never carry a height over. -/
def toCurrent : Point → NodeBridge.Point
  | .symbolic name => .symbolic name
  | .structural block => .structural ⟨block.hash, block.slot, none⟩

def ofCurrent : NodeBridge.Point → Point
  | .symbolic name => .symbolic name
  | .structural block => .structural (BlockPoint.ofCurrent block)

/-- Converts into the legacy schema what is in it already: symbolic points read the same
in both schemas, structural ones are refused. -/
def reconvert : Point → Decoded Point
  | .symbolic name => .ok (.symbolic name)
  | .structural _ => .error .pointIsLegacy

end Point

end NodeBridge.Legacy
