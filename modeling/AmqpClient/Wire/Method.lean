import AmqpClient.Endpoint
import AmqpClient.Exchange
import AmqpClient.Message

/-!
# Methods

What a client sends to a broker: the protocol header first, then methods, each on
a channel. Channel zero belongs to the connection itself.
-/

set_option autoImplicit false

namespace AmqpClient.Wire

inductive DeclareMode where
  /-- It must exist; nothing is created. -/
  | passive
  /-- It is created if it does not exist, to outlive the broker's restarts. -/
  | durable
  deriving DecidableEq, Repr, Inhabited

inductive Method where
  | header
  | startOk (mechanism : Mechanism) (response : Bytes) (connectionName : Option String)
  | openConnection (virtualHost : String)
  | closeConnection
  | openChannel
  | closeChannel
  | declareQueue (mode : DeclareMode) (queue : String) (arguments : FieldTable)
  | declareExchange (mode : DeclareMode) (exchange : String) (kind : ExchangeKind)
      (arguments : FieldTable)
  | bindQueue (queue exchange routingKey : String)
  | selectConfirm
  | qos (prefetch : UInt16)
  | publish (message : OutboundMessage)
  | consume (queue tag : String)
  | settle (tag : Nat) (settlement : Settlement)
  deriving DecidableEq, Repr, Inhabited

structure Frame where
  channel : Nat
  method : Method
  deriving DecidableEq, Repr, Inhabited

def protocolHeader : Bytes :=
  Text.encodeUtf8 "AMQP" ++ [0, 0, 9, 1]

def locale : String := "en_US"

def closeCode : Nat := 200

def closeText : String := "OK"

/-- The delivery mode of messages that survive the broker's restarts. -/
def persistentMode : Nat := 2

namespace Method

def name : Method → String
  | .header => "header"
  | .startOk .. => "connection.start-ok"
  | .openConnection _ => "connection.open"
  | .closeConnection => "connection.close"
  | .openChannel => "channel.open"
  | .closeChannel => "channel.close"
  | .declareQueue .. => "queue.declare"
  | .declareExchange .. => "exchange.declare"
  | .bindQueue .. => "queue.bind"
  | .selectConfirm => "confirm.select"
  | .qos _ => "basic.qos"
  | .publish _ => "basic.publish"
  | .consume .. => "basic.consume"
  | .settle _ .ack => "basic.ack"
  | .settle _ (.nack _) => "basic.nack"
  | .settle _ (.reject _) => "basic.reject"

/-- The bits of a method by name. Every method waits for its reply. -/
def bits : Method → List (String × Bool)
  | .declareQueue mode _ _ =>
    [("passive", mode = .passive), ("durable", mode = .durable), ("exclusive", false),
     ("auto_delete", false), ("nowait", false)]
  | .declareExchange mode _ _ _ =>
    [("passive", mode = .passive), ("durable", mode = .durable), ("auto_delete", false),
     ("internal", false), ("nowait", false)]
  | .bindQueue .. | .selectConfirm => [("nowait", false)]
  | .qos _ => [("global", false)]
  | .publish _ => [("mandatory", false), ("immediate", false)]
  | .consume .. =>
    [("no_local", false), ("no_ack", false), ("exclusive", false), ("nowait", false)]
  | .settle _ .ack => [("multiple", false)]
  | .settle _ (.nack requeue) => [("multiple", false), ("requeue", requeue)]
  | .settle _ (.reject requeue) => [("requeue", requeue)]
  | .header | .startOk .. | .openConnection _ | .closeConnection | .openChannel
  | .closeChannel => []

def handshake (endpoint : Endpoint) : List Method :=
  let address := endpoint.address
  [.header,
   .startOk address.mechanism (address.mechanism.response address.username address.password)
     endpoint.connectionName,
   .openConnection address.virtualHost]

end Method

end AmqpClient.Wire
