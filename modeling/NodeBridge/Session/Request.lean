import NodeBridge.Chain.Point
import NodeBridge.Session.Failure

/-!
The requests that sessions send, and the points that a handshake offers. A handshake that offers a
point with too long a number cannot be written, and then there is nothing to send.
-/

namespace NodeBridge

inductive Request where
  /-- The handshake of a chain follower: the points from which it could go on. -/
  | findIntersection (points : List Point)
  | nextBlock
  | acquireMempool
  | nextTransaction
deriving DecidableEq

namespace Request

def toJson : Request → Json
  | .findIntersection points =>
      .object [("jsonrpc", .text "2.0"), ("method", .text "findIntersection"),
        ("params", .object [("points", .list (points.map Point.toJson))]),
        ("id", .object [("step", .text "INIT")])]
  | .nextBlock =>
      .object [("jsonrpc", .text "2.0"), ("method", .text "nextBlock"), ("id", .object [])]
  | .acquireMempool =>
      .object [("jsonrpc", .text "2.0"), ("method", .text "acquireMempool"),
        ("id", .object [("step", .text "MEMPOOLINIT")])]
  | .nextTransaction =>
      .object [("jsonrpc", .text "2.0"), ("method", .text "nextTransaction"),
        ("params", .object [("fields", .text "all")]), ("id", .object [])]

/-- Whether a number of a point in the request has too many digits to be written. -/
def isTooLong : Request → Bool
  | .findIntersection points => points.any Point.isTooLong
  | _ => false

/-- Writes the text, unless a number would have too many digits. -/
def written (request : Request) : Decoded String :=
  if request.isTooLong then .error .numberTooLong else .ok request.toJson.asciiText

/-- Why the text cannot be written, if it cannot. -/
def failure? (request : Request) : Option Failure :=
  match request.written with
  | .ok _ => none
  | .error error => some (.of (.invalid error.message))

theorem failure_eq_none_iff (request : Request) :
    request.failure? = none ↔ ∃ content, request.written = .ok content := by
  unfold failure?
  cases request.written <;> simp

def duty : Request → Duty
  | .findIntersection _ => .writeFindIntersection
  | .nextBlock => .writeNextBlock
  | .acquireMempool => .writeAcquireMempool
  | .nextTransaction => .writeNextTransaction

end Request

namespace Handshake

/-- The greatest number of points that a handshake offers. -/
def maxPoints : Nat := 5

/-- The points to go on from: those of the store, or else those of the caller, or else the
origin. -/
def candidates (stored offered : List Point) : List Point :=
  if !stored.isEmpty then stored
  else if !offered.isEmpty then offered
  else [Point.origin]

/-- The handshake for the foremost of the points to go on from. -/
def request (stored offered : List Point) : Request :=
  .findIntersection ((Point.sorted (candidates stored offered)).take maxPoints)

theorem request_of_single {stored offered : List Point} {point : Point}
    (alone : candidates stored offered = [point]) :
    request stored offered = .findIntersection [point] := by
  rw [request, alone, Point.sorted, List.mergeSort_singleton]
  rfl

end Handshake

end NodeBridge
