import NodeBridge.Metadata.Metadatum

/-!
Datums kept in metadata. A metadatum holds at most a few bytes, so a datum is cut into
chunks: a map leads from a key of bytes to the list of its chunks. Entries of any other
shape are passed over.
-/

namespace NodeBridge

namespace Metadatum

/-- The bytes of all items, if each of them is a byte string. -/
def chunks? : List Metadatum → Option (List Bytes)
  | [] => some []
  | .bytes chunk :: items => (chunks? items).map (chunk :: ·)
  | _ :: _ => none

def datum? : Metadatum × Metadatum → Option (String × Bytes)
  | (.bytes key, .list items) =>
      (chunks? items).map fun chunks => (Text.encodeHex key, chunks.flatten)
  | _ => none

/-- The datums of a map by the hexadecimal digits of their keys; other trees hold none. -/
def datums : Metadatum → OrderedMap String Bytes
  | .map entries => OrderedMap.ofList (entries.filterMap datum?)
  | _ => OrderedMap.empty

end Metadatum

end NodeBridge
