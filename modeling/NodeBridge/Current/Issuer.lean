import NodeBridge.Decode.Field

/-!
Who made a block, in the current schema: the keys of the issuer, the operational
certificate, the version of the protocol and the proofs of the leader.
-/

namespace NodeBridge.Current

structure VrfProof where
  output : String
  proof : String
deriving DecidableEq, Inhabited, Repr

namespace VrfProof

def ofJson (what : String) (json : Json) : Decoded VrfProof := do
  let fields ← Decode.object what json
  let output ← Decode.text (what ++ ".output") (Json.get fields "output")
  let proof ← Decode.text (what ++ ".proof") (Json.get fields "proof")
  .ok ⟨output, proof⟩

def toJson (value : VrfProof) : Json :=
  .object (Json.compact [] [("output", .text value.output), ("proof", .text value.proof)])

end VrfProof

structure ProtocolVersion where
  major : Int
  minor : Int
  patch : Int
deriving DecidableEq, Inhabited, Repr

namespace ProtocolVersion

def ofJson (json : Json) : Decoded ProtocolVersion := do
  let fields ← Decode.object "protocol version" json
  let major ← Decode.integer "version.major" (Json.get fields "major")
  let minor ← Decode.integer "version.minor" (Json.get fields "minor")
  let patch ← Decode.integer "version.patch" (Json.get fields "patch")
  .ok ⟨major, minor, patch⟩

def toJson (version : ProtocolVersion) : Json :=
  .object (Json.compact ["major", "minor"]
    [("major", .int version.major), ("minor", .int version.minor), ("patch", .int version.patch)])

end ProtocolVersion

structure OperationalCertificate where
  count : Int
  kesPeriod : Int
  kesVerificationKey : String
deriving DecidableEq, Inhabited, Repr

namespace OperationalCertificate

def empty : OperationalCertificate := ⟨0, 0, ""⟩

def ofJson (json : Json) : Decoded OperationalCertificate := do
  let fields ← Decode.object "operationalCertificate" json
  let kes ← Decode.object "operationalCertificate.kes" (Json.get fields "kes")
  let count ← Decode.integer "operationalCertificate.count" (Json.get fields "count")
  let period ← Decode.integer "kes.period" (Json.get kes "period")
  let key ← Decode.text "kes.verificationKey" (Json.get kes "verificationKey")
  .ok ⟨count, period, key⟩

def toJson (certificate : OperationalCertificate) : Json :=
  .object (Json.compact [] [
    ("count", .int certificate.count),
    ("kes", .object (Json.compact [] [("period", .int certificate.kesPeriod),
      ("verificationKey", .text certificate.kesVerificationKey)]))])

end OperationalCertificate

structure Issuer where
  verificationKey : String
  vrfVerificationKey : String
  operationalCertificate : OperationalCertificate
  leaderValue : Option VrfProof
deriving DecidableEq, Inhabited, Repr

namespace Issuer

def ofJson (json : Json) : Decoded Issuer := do
  let fields ← Decode.object "issuer" json
  let leader ←
    Decode.optional (Decode.object "issuer.leaderValue") (Json.get fields "leaderValue")
  let verificationKey ←
    Decode.text "issuer.verificationKey" (Json.get fields "verificationKey")
  let vrfVerificationKey ←
    Decode.text "issuer.vrfVerificationKey" (Json.get fields "vrfVerificationKey")
  let certificate ← OperationalCertificate.ofJson (Json.get fields "operationalCertificate")
  let leaderValue ← match leader with
    | some fields => (VrfProof.ofJson "leaderValue" (.object fields)).map some
    | none => .ok none
  .ok ⟨verificationKey, vrfVerificationKey, certificate, leaderValue⟩

def toJson (issuer : Issuer) : Json :=
  .object (Json.compact [] [
    ("verificationKey", .text issuer.verificationKey),
    ("vrfVerificationKey", .text issuer.vrfVerificationKey),
    ("operationalCertificate", issuer.operationalCertificate.toJson),
    ("leaderValue", Json.ofOption VrfProof.toJson issuer.leaderValue)])

end Issuer

end NodeBridge.Current
