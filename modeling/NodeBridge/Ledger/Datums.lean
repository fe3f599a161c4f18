import NodeBridge.Decode.Field
import NodeBridge.Text.Base64

/-!
Datums by their hashes, in hexadecimal digits. Older nodes send them in base 64, which is
turned into hexadecimal digits; digits are kept as they were sent.
-/

namespace NodeBridge

abbrev Datums := OrderedMap String String

namespace Datums

def readDatum (_hash : String) : Json → Decoded String
  | .text content =>
      match Text.decodeHex content with
      | some _ => .ok content
      | none =>
          match Text.decodeBase64 content with
          | some bytes => .ok (Text.encodeHex bytes)
          | none => .error (.datumNotBytes content)
  | other => .error (.datumNotText other)

def ofJson (json : Json) : Decoded Datums := Decode.map "datums" readDatum json

def toJson (datums : Datums) : Json := Json.ofMap .text datums

end Datums

end NodeBridge
