import NodeBridge.Cbor.Display

/-!
Reading the parts of items, by the rules for the fields of documents: null stands for the
empty value of its kind, and whole numbers may come as doubles without a fraction.
-/

namespace NodeBridge.Cbor.Field

def entries (what : String) (item : Item) : Decoded (List (Item × Item)) :=
  match item.unrolled with
  | .null => .ok []
  | .map entries => .ok entries
  | other => .error (.unexpected what .object other.kind)

def text (what : String) : Item → Decoded String
  | .null => .ok ""
  | .text value => .ok value
  | other => .error (.unexpected what .text other.kind)

def notWhole (what : String) (item : Item) : Decoded Int := do
  .error (.notWhole what (← item.shown))

def integer (what : String) : Item → Decoded Int
  | .null => .ok 0
  | .bool _ => .error (.truthForNumber what)
  | .int value => .ok value
  | .float number =>
      match number.toInt? with
      | some value => .ok value
      | none => notWhole what (.float number)
  | other => notWhole what other

def optionalInteger (what : String) : Item → Decoded (Option Int)
  | .null => .ok none
  | item => (integer what item).map some

/-- The value under a text key, or null. -/
def get (entries : List (Item × Item)) (name : String) : Item :=
  (Item.textEntry? name entries).getD .null

end NodeBridge.Cbor.Field
