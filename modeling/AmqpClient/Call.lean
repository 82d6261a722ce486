import AmqpClient.Endpoint
import AmqpClient.Exchange
import AmqpClient.Message

/-!
# Broker calls

Everything a client asks of a broker, as values: a call, the answer it is meant
to get, and the reply, which is that answer or a failure. Connections, channels,
pending confirmations and delivery streams are known by number.
-/

set_option autoImplicit false

namespace AmqpClient

inductive Call where
  | connect (endpoint : Endpoint)
  | openChannel (connection : Nat)
  | queueExists (channel : Nat) (queue : String)
  | declareQueue (channel : Nat) (queue : String) (arguments : FieldTable)
  | exchangeExists (channel : Nat) (exchange : String) (kind : ExchangeKind)
  | declareExchange (channel : Nat) (exchange : String) (kind : ExchangeKind)
      (arguments : FieldTable)
  | bindQueue (channel : Nat) (queue exchange routingKey : String)
  /-- Makes the broker confirm every message of the channel. -/
  | confirmSelect (channel : Nat)
  /-- Bounds the unsettled deliveries of a channel. -/
  | qos (channel : Nat) (prefetch : UInt16)
  | publish (channel : Nat) (message : OutboundMessage)
  | consume (channel : Nat) (queue tag : String)
  | closeChannel (channel : Nat)
  | closeConnection (connection : Nat)
  deriving DecidableEq, Repr, Inhabited

inductive Answer where
  | connection (id : Nat)
  | channel (id : Nat)
  | found (isFound : Bool)
  | done
  /-- The confirmation that a published message will get. -/
  | confirmation (id : Nat)
  | stream (id : Nat)
  deriving DecidableEq, Repr, Inhabited

abbrev Reply := Except ClientError Answer

def Answer.answers : Answer → Call → Bool
  | .connection _, .connect _ => true
  | .channel _, .openChannel _ => true
  | .found _, .queueExists .. => true
  | .found _, .exchangeExists .. => true
  | .confirmation _, .publish .. => true
  | .stream _, .consume .. => true
  | .done, .declareQueue .. => true
  | .done, .declareExchange .. => true
  | .done, .bindQueue .. => true
  | .done, .confirmSelect _ => true
  | .done, .qos .. => true
  | .done, .closeChannel _ => true
  | .done, .closeConnection _ => true
  | _, _ => false

namespace Answer

/-- The number that an answer brings; zero if it brings none. -/
def id : Answer → Nat
  | .connection id | .channel id | .confirmation id | .stream id => id
  | .found _ | .done => 0

def isFound : Answer → Bool
  | .found isFound => isFound
  | _ => false

end Answer

end AmqpClient
