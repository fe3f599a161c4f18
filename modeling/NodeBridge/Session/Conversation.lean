import NodeBridge.Session.Request
import NodeBridge.Text.Utf8

/-!
What is said over one connection. A conversation fixes which requests are sent and what is
done with the frames that arrive. The connection that carries it out is the same for all
conversations.
-/

namespace NodeBridge

inductive Frame where
  | text (content : Bytes)
  | binary (content : Bytes)
  | ping (content : Bytes)
  | pong (content : Bytes)
  | close
deriving DecidableEq, Repr

inductive Reaction (Memory Delivery : Type) where
  /-- Go on listening, after asking for more. -/
  | proceed (memory : Memory) (requests : List Request)
  /-- Hand something over. Once it is taken, a point may have to be saved, and only then the
  listening goes on with the new memory and further requests. -/
  | deliver (delivery : Delivery) (save : Option Point) (memory : Memory)
      (requests : List Request)
  | refuse (failure : Failure)

structure Conversation (Memory Delivery : Type) where
  name : String
  /-- The request that goes ahead of the queue, given the stored points. -/
  opening : List Point → Option Request
  queued : List Request
  /-- How many requests may wait; further ones are dropped. -/
  capacity : Option Nat
  /-- The requests that the reader makes before the first frame. -/
  greeting : List Request
  /-- The requests that each frame makes, whatever it holds. -/
  refill : List Request
  /-- What is remembered before the first frame. -/
  memory : Memory
  count : Memory → Memory
  react : Memory → Bytes → Reaction Memory Delivery
  parting : Memory → Option Point
  /-- The duty that fails when a delivery is not taken. -/
  delivering : Duty

namespace Conversation

/-- Why the opening cannot be written, if there is one that cannot. -/
def obstacle? {Memory Delivery : Type} (conversation : Conversation Memory Delivery)
    (stored : List Point) : Option Failure :=
  (conversation.opening stored).bind Request.failure?

/-- Puts a request into the queue, unless the queue is full. -/
def put (capacity : Option Nat) (queue : List Request) (request : Request) : List Request :=
  if capacity.any (· ≤ queue.length) then queue else queue ++ [request]

def enqueue (capacity : Option Nat) (queue requests : List Request) : List Request :=
  requests.foldl (put capacity) queue

end Conversation

end NodeBridge
