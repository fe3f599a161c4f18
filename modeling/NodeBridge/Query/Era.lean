import NodeBridge.Decode.Field

/-!
The eras of the chain. Each era has slots of its own length, so the time up to a slot is
summed era by era.
-/

namespace NodeBridge

structure EraBound where
  seconds : Int
  slot : Int
  epoch : Int
deriving DecidableEq, Repr

structure EraParameters where
  epochLength : Int
  /-- The length of a slot in milliseconds. -/
  slotLength : Int
  safeZone : Int
deriving DecidableEq, Repr

structure EraSummary where
  start : EraBound
  finish : EraBound
  parameters : EraParameters
deriving DecidableEq, Repr

def EraBound.ofJson (json : Json) : Decoded EraBound := do
  let fields ← Decode.object "era bound" json
  let time ← Decode.object "era bound time" (Json.get fields "time")
  let seconds ← Decode.integer "time.seconds" (Json.get time "seconds")
  let slot ← Decode.integer "era bound slot" (Json.get fields "slot")
  let epoch ← Decode.integer "era bound epoch" (Json.get fields "epoch")
  .ok ⟨seconds, slot, epoch⟩

def EraParameters.ofJson (json : Json) : Decoded EraParameters := do
  let fields ← Decode.object "era parameters" json
  let epochLength ← Decode.integer "epochLength" (Json.get fields "epochLength")
  let length ← Decode.object "slotLength" (Json.get fields "slotLength")
  let slotLength ← Decode.integer "slotLength.milliseconds" (Json.get length "milliseconds")
  let safeZone ← Decode.integer "safeZone" (Json.get fields "safeZone")
  .ok ⟨epochLength, slotLength, safeZone⟩

def EraSummary.ofJson (json : Json) : Decoded EraSummary := do
  let fields ← Decode.object "era summary" json
  let start ← EraBound.ofJson (Json.get fields "start")
  let finish ← EraBound.ofJson (Json.get fields "end")
  let parameters ← EraParameters.ofJson (Json.get fields "parameters")
  .ok ⟨start, finish, parameters⟩

/-- How much of an era lies before a slot, in milliseconds. -/
def EraSummary.elapsed (era : EraSummary) (slot : Int) : Int :=
  if era.finish.slot < slot then
    (era.finish.slot - era.start.slot) * era.parameters.slotLength
  else if era.start.slot < slot then (slot - era.start.slot) * era.parameters.slotLength
  else 0

/-- The milliseconds from the start of the chain up to a slot. -/
def elapsedMilliseconds (eras : List EraSummary) (slot : Int) : Int :=
  eras.foldl (fun total era => total + era.elapsed slot) 0

end NodeBridge
