import AmqpClient.Exchange
import AmqpClient.Field

/-!
# Topology

The queue a client works on, and the exchange and binding it may use. Exchange
routing is in use exactly when both the exchange name and the routing key are
not empty; otherwise messages go straight to the queue through the broker's
default exchange.
-/

set_option autoImplicit false

namespace AmqpClient

/-- Queue, exchange and binding, with the arguments of their declares. -/
structure Topology where
  queue : String
  exchange : String := ""
  kind : ExchangeKind := .direct
  routingKey : String := ""
  queueArguments : FieldTable := []
  exchangeArguments : FieldTable := []
  deriving DecidableEq, Repr, Inhabited

namespace Topology

def maxPriorityArgument : String := "x-max-priority"

/-- The argument that bounds the life of messages, in milliseconds. -/
def messageTtlArgument : String := "x-message-ttl"

def maxLengthArgument : String := "x-max-length"

def maxLengthBytesArgument : String := "x-max-length-bytes"

def delayedTypeArgument : String := "x-delayed-type"

def ofQueue (queue : String) : Topology :=
  { queue }

/-- Routes through an exchange of this kind. Exchange arguments set before stay. -/
def withExchange (topology : Topology) (exchange : String) (kind : ExchangeKind) : Topology :=
  { topology with exchange, kind }

/-- Routes through a delayed exchange that behaves like `inner` once the delay is over. -/
def withDelayedExchange (topology : Topology) (exchange : String) (inner : ExchangeKind) :
    Topology :=
  { topology with
    exchange
    kind := .delayed
    exchangeArguments :=
      Keyed.insert delayedTypeArgument (.longString (Text.encodeUtf8 inner.wireName))
        topology.exchangeArguments }

def withRoutingKey (topology : Topology) (routingKey : String) : Topology :=
  { topology with routingKey }

def withArgument (topology : Topology) (key : String) (value : FieldValue) : Topology :=
  { topology with queueArguments := Keyed.insert key value topology.queueArguments }

def withMaxPriority (topology : Topology) (max : UInt8) : Topology :=
  topology.withArgument maxPriorityArgument (.shortShortUInt max)

def withTtl (topology : Topology) (milliseconds : Int32) : Topology :=
  topology.withArgument messageTtlArgument (.longInt milliseconds)

def withMaxLength (topology : Topology) (max : Int32) : Topology :=
  topology.withArgument maxLengthArgument (.longInt max)

def withMaxLengthBytes (topology : Topology) (max : Int32) : Topology :=
  topology.withArgument maxLengthBytesArgument (.longInt max)

def usesExchange (topology : Topology) : Bool :=
  topology.exchange ≠ "" && topology.routingKey ≠ ""

/-- The exchange and the routing key that every message is addressed to. -/
def publishTarget (topology : Topology) : String × String :=
  if topology.usesExchange then (topology.exchange, topology.routingKey) else ("", topology.queue)

def validate (topology : Topology) : Except ClientError Unit :=
  if Text.trimChars topology.queue.toList = [] then
    .error (.invalidTopology "queue name must not be empty")
  else .ok ()

end Topology

end AmqpClient
