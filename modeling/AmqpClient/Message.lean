import AmqpClient.Error
import AmqpClient.Field

/-!
# Messages

What is published, what the broker says about it, and what it hands out again.
-/

set_option autoImplicit false

namespace AmqpClient

/-- The identity of a published message: given by the caller, or drawn fresh. Two
fresh identities are equal exactly when their serial numbers are. -/
inductive MessageId where
  | given (text : String)
  | fresh (serial : Nat)
  deriving DecidableEq, Repr, Inhabited

/-- A message ready to be written to a channel. -/
structure OutboundMessage where
  exchange : String
  routingKey : String
  payload : Bytes
  contentType : String
  priority : UInt8
  id : MessageId
  headers : FieldTable := []
  deriving DecidableEq, Repr, Inhabited

/-- What the broker said about a published message. -/
inductive Confirmation where
  | ack
  | nack
  | notRequested
  deriving DecidableEq, Repr, Inhabited

structure Delivery where
  tag : Nat
  exchange : String := ""
  routingKey : String := ""
  redelivered : Bool := false
  priority : Option UInt8 := none
  /-- The message type; empty when the sender gave none. -/
  kind : String := ""
  headers : FieldTable := []
  data : Bytes := []
  deriving DecidableEq, Repr, Inhabited

inductive Settlement where
  | ack
  | nack (requeue : Bool)
  | reject (requeue : Bool)
  deriving DecidableEq, Repr, Inhabited

namespace Settlement

def failure : Settlement → ClientError
  | .ack => .ack
  | .nack _ => .nack
  | .reject _ => .reject

def requeues : Settlement → Bool
  | .ack => false
  | .nack requeue => requeue
  | .reject requeue => requeue

end Settlement

end AmqpClient
