import NodeBridge.Text.Hex

/-!
Names of assets. A policy and a name within it are joined by a point; an empty name is
left out together with the point. The first point of an identifier ends its policy.
-/

namespace NodeBridge

structure AssetId where
  text : String
deriving DecidableEq, Repr

namespace AssetId

def join (policy : String) (name : String) : AssetId :=
  if name.isEmpty then ⟨policy⟩ else ⟨policy ++ "." ++ name⟩

/-- What stands before the first point. -/
def policy (id : AssetId) : String := String.ofList (id.text.toList.takeWhile (· ≠ '.'))

/-- What stands after the first point. -/
def name (id : AssetId) : String :=
  String.ofList ((id.text.toList.dropWhile (· ≠ '.')).drop 1)

/-- The name read as hexadecimal digits of UTF-8. -/
def nameUtf8? (id : AssetId) : Option String := do
  let bytes ← Text.decodeHex id.name
  Text.decodeUtf8 bytes

end AssetId

def adaPolicy : String := "ada"

def lovelaceName : String := "lovelace"

def adaAssetId : AssetId := AssetId.join adaPolicy lovelaceName

/-- An amount of one asset. -/
structure Coin where
  asset : AssetId
  amount : Int
deriving DecidableEq, Repr

def adaCoin (amount : Int) : Coin := ⟨adaAssetId, amount⟩

end NodeBridge
