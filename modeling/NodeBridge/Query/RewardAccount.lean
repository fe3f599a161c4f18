import NodeBridge.Ledger.Value
import NodeBridge.Query.Failure
import NodeBridge.Text.Bech32

/-!
Reward accounts. An account is known by the hash of a key, which is what a reward address
holds after its first byte.
-/

namespace NodeBridge

structure Delegation where
  pool : String
  rewards : Int
deriving DecidableEq, Repr

namespace RewardAccount

/-- The bytes of a reward address, if there are any. -/
def addressBytes? (address : String) : Option (List Nat) :=
  match (Text.decodeBech32 address).bind fun parts => Text.joinGroups 0 0 parts.2 with
  | some (first :: rest) => some (first :: rest)
  | _ => none

/-- The hash of the key in a reward address, in hexadecimal digits. -/
def keyHash (address : String) : Except QueryFailure String :=
  match addressBytes? address with
  | some bytes => .ok (Text.encodeHex (bytes.tail.map UInt8.ofNat))
  | none => .error (.rewardAddress address)

/-- The rewards of an account; none are mentioned if there are none. -/
def readRewards (json : Json) : Decoded Int :=
  if json.isNull then .ok 0 else (Value.ofJson json).map Value.lovelace

def readSummary (json : Json) : Decoded Delegation := do
  let summary ← Decode.object "reward account summary" json
  let delegate ← Decode.object "delegate" (Json.get summary "delegate")
  let pool := Json.get delegate "id"
  let rewards ← readRewards (Json.get summary "rewards")
  .ok ⟨if pool.isTruthy then pool.bareShown else "", rewards⟩

/-- The summary of one account out of those in a result. -/
def readDelegation (address hash : String) (json : Json) : Except QueryFailure Delegation := do
  let summaries ← (Decode.object "rewardAccountSummaries" json).mapError .decode
  match summaries.lookup hash with
  | none => .error (.refused s!"reward account not found for reward address vfk: {hash}" 0 .null)
  | some summary =>
      if summary.isNull then
        .error (.refused
          s!"query returned nil reward account for reward address: {address}" 0 .null)
      else (readSummary summary).mapError .decode

end RewardAccount

end NodeBridge
