import NodeBridge.Cbor.Display
import NodeBridge.Cbor.Reader
import NodeBridge.Cbor.Writer

/-!
A value of one of several variants, as a map of one entry from the number of the variant
to the value. A byte string that is empty or says nil stands for no value.
-/

namespace NodeBridge.Cbor

/-- The byte string that stands for no value. -/
def nil : Bytes := Text.encodeUtf8 "nil"

def encodeVariant (tag : Int) (value : Json) : Bytes :=
  head 5 1 ++ encodeInteger tag ++ encode value

/-- The entries that name a variant: their keys are whole numbers or truth values, and
their values are not null. -/
def variants (entries : List (Item × Item)) : List (Item × Item) :=
  entries.filter fun entry => entry.1.whole?.isSome && !entry.2.isNull

/-- The numbers of some variants in ascending order, as messages show them. -/
def shownVariants (entries : List (Item × Item)) : Decoded String :=
  let keys := (entries.map Prod.fst).mergeSort fun left right =>
    left.whole?.getD 0 ≤ right.whole?.getD 0
  (Item.list keys).shown

def decodeVariant (input : Bytes) : Decoded (Option (Item × Item)) :=
  if input = [] ∨ input = nil then .ok none
  else do
    match (← decode input).unrolled with
    | .map entries =>
        match variants entries with
        | [entry] => .ok (some entry)
        | others => .error (.variantCount (← shownVariants others))
    | _ => .error .variantsNotMap

end NodeBridge.Cbor
