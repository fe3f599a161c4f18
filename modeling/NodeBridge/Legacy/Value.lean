import NodeBridge.Ledger.Value

/-!
Amounts in the legacy schema: one number of lovelace, and a flat map of all other assets
by their joined identifiers.
-/

namespace NodeBridge.Legacy

structure FlatValue where
  coins : Int
  assets : OrderedMap String Int
deriving DecidableEq

namespace FlatValue

def empty : FlatValue := ⟨0, OrderedMap.empty⟩

instance : Inhabited FlatValue := ⟨empty⟩

def ofJson (json : Json) : Decoded FlatValue := do
  let fields ← Decode.object "value" json
  let assets ← Decode.map "value.assets"
    (fun id amount => Decode.integer ("value.assets." ++ id) amount) (Json.get fields "assets")
  let coins ← Decode.integer "value.coins" (Json.get fields "coins")
  .ok ⟨coins, assets⟩

def toJson (value : FlatValue) : Json :=
  .object ((if value.coins = 0 then [] else [("coins", .int value.coins)]) ++
    [("assets", Json.ofMap .int value.assets)])

/-- The policy and the name of a joined identifier. An identifier of more than two parts
gives its first part and no name. -/
def splitAsset (id : String) : String × String :=
  let chars := id.toList
  let policy := chars.takeWhile (· ≠ '.')
  let name := (chars.dropWhile (· ≠ '.')).drop 1
  (String.ofList policy, if name.contains '.' then "" else String.ofList name)

def toCurrent (value : FlatValue) : Value :=
  let start := if value.coins = 0 then Value.empty
    else Value.empty.put adaPolicy lovelaceName value.coins
  value.assets.entries.foldl
    (fun result entry =>
      result.put (splitAsset entry.1).1 (splitAsset entry.1).2 entry.2) start

def ofCurrent (value : Value) : FlatValue :=
  value.entries.foldl
    (fun result entry =>
      if entry.policy = adaPolicy ∧ entry.name = lovelaceName then
        { result with coins := entry.amount }
      else
        { result with
          assets := result.assets.insert (AssetId.join entry.policy entry.name).text entry.amount })
    empty

end FlatValue

end NodeBridge.Legacy
