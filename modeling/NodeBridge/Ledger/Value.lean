import NodeBridge.Decode.Field
import NodeBridge.Ledger.Asset

/-!
Amounts of many assets, by policy and by name within the policy. A missing amount is zero.
Sums and differences follow the order of the left operand and put what only the right one
holds behind it.
-/

namespace NodeBridge

/-- The amounts under one policy, by name. -/
abbrev Holdings := OrderedMap String Int

structure Value where
  policies : OrderedMap String Holdings
deriving DecidableEq

structure Holding where
  policy : String
  name : String
  amount : Int
deriving DecidableEq, Repr

structure InsufficientFunds where
  asset : AssetId
  held : Int
  want : Int
deriving DecidableEq, Repr

def InsufficientFunds.message (error : InsufficientFunds) : String :=
  s!"insufficient funds: {error.asset.text} has {Text.integerText error.held}, wants " ++
    Text.integerText error.want

namespace Value

def empty : Value := ⟨OrderedMap.empty⟩

instance : Inhabited Value := ⟨empty⟩

def holdings (value : Value) (policy : String) : Holdings :=
  (value.policies.find? policy).getD OrderedMap.empty

def amount (value : Value) (policy name : String) : Int :=
  ((value.holdings policy).find? name).getD 0

def assetAmount (value : Value) (asset : AssetId) : Int := value.amount asset.policy asset.name

def lovelace (value : Value) : Int := value.assetAmount adaAssetId

/-- Sets one amount. -/
def put (value : Value) (policy name : String) (amount : Int) : Value :=
  ⟨value.policies.insert policy ((value.holdings policy).insert name amount)⟩

/-- Adds to one amount. -/
def deposit (value : Value) (policy name : String) (amount : Int) : Value :=
  value.put policy name (value.amount policy name + amount)

def addCoin (value : Value) (coin : Coin) : Value :=
  value.deposit coin.asset.policy coin.asset.name coin.amount

def addCoins (value : Value) (coins : List Coin) : Value := coins.foldl addCoin value

def ofCoins (coins : List Coin) : Value := empty.addCoins coins

def ofLovelace (amount : Int) : Value := ofCoins [adaCoin amount]

/-- All amounts, in order. -/
def entries (value : Value) : List Holding :=
  value.policies.entries.flatMap fun policy =>
    policy.2.entries.map fun asset => ⟨policy.1, asset.1, asset.2⟩

def coins (value : Value) : List Coin :=
  value.entries.map fun entry => ⟨AssetId.join entry.policy entry.name, entry.amount⟩

def exceptAda (value : Value) : Value :=
  ⟨value.policies.filter fun policy _ => policy ≠ adaPolicy⟩

def exceptAdaCount (value : Value) : Nat :=
  value.exceptAda.policies.values.foldl (fun count assets => count + assets.size) 0

def isAdaPresent (value : Value) : Bool := 0 < value.amount adaPolicy lovelaceName

def combine (sign : Int) (left right : Value) : Value :=
  right.entries.foldl
    (fun value entry => value.deposit entry.policy entry.name (sign * entry.amount)) left

def add (left right : Value) : Value := combine 1 left right

def subtract (left right : Value) : Value := combine (-1) left right

/-- Whether two values hold the same amount of every asset that one of them names. -/
def equal (left right : Value) : Bool :=
  (left.entries ++ right.entries).all fun entry =>
    left.amount entry.policy entry.name = right.amount entry.policy entry.name

/-- Whether each amount that the left value names is at most that of the right one. -/
def lessOrEqual (left right : Value) : Bool :=
  left.entries.all fun entry => entry.amount ≤ right.amount entry.policy entry.name

/-- Whether each amount that the right value names is at most that of the left one. -/
def greaterOrEqual (left right : Value) : Bool :=
  right.entries.all fun entry => entry.amount ≤ left.amount entry.policy entry.name

def enough (held want : Value) : Bool :=
  want.entries.all fun entry => entry.amount ≤ held.amount entry.policy entry.name

/-- The first wanted amount that is not there. -/
def requireEnough (held want : Value) : Except InsufficientFunds Unit :=
  match want.entries.find? fun entry =>
      held.amount entry.policy entry.name < entry.amount with
  | some entry =>
      .error ⟨AssetId.join entry.policy entry.name, held.amount entry.policy entry.name,
        entry.amount⟩
  | none => .ok ()

/-- One amount of a document. Only whole numbers written as such will do. -/
def readAmount (policy name : String) : Json → Decoded Int
  | .int amount => .ok amount
  | _ => .error (.amountNotWhole policy name)

def readHoldings (policy : String) : Json → Decoded Holdings
  | .object fields => (Decode.entries (readAmount policy) fields).map OrderedMap.ofList
  | _ => .error (.policyNotObject policy)

def ofJson : Json → Decoded Value
  | .null => .ok empty
  | .object fields => do
      let policies ← Decode.entries readHoldings fields
      .ok ⟨OrderedMap.ofList policies⟩
  | other => .error (.unexpected "value" .object other.kind)

def holdingsToJson (holdings : Holdings) : Json := Json.ofMap .int holdings

def toJson (value : Value) : Json := Json.ofMap holdingsToJson value.policies

end Value

end NodeBridge
