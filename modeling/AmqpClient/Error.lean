/-!
# Client errors

Every failure that a client can report, as its cause. Transient causes are
connectivity failures that a retry may fix; fatal causes come from configuration
or from the caller's data and are never retried; the rest concern one delivery
or the end of the client's life.
-/

set_option autoImplicit false

namespace AmqpClient

inductive ClientError where
  | internal
  | invalidEndpoint (address : String)
  | invalidTopology (details : String)
  | config (key details : String)
  | connection
  | connectTimeout
  | channelTimeout
  | channel
  | confirmSelect
  | declareExchange (name : String)
  | declareQueue (name : String)
  | bindQueue (exchange queue : String)
  | publishing
  | parsePayload
  | ack
  | nack
  | reject
  | qos (details : String)
  | consumerDeclaration
  | consumer (details : String)
  | notConnected
  | alreadyClosed
  | alreadyStarted
  | shutdown
  deriving DecidableEq, Repr, Inhabited

namespace ClientError

def message : ClientError → String
  | .internal => "internal error"
  | .invalidEndpoint address => "invalid broker endpoint `" ++ address ++ "`"
  | .invalidTopology details => "invalid topology: " ++ details
  | .config key details => "failure to load config `" ++ key ++ "`: " ++ details
  | .connection => "failure to connect"
  | .connectTimeout => "connect timed out"
  | .channelTimeout => "channel operation timed out"
  | .channel => "failure to create a channel"
  | .confirmSelect => "failure to enable publisher confirms"
  | .declareExchange name => "failure to declare an exchange `" ++ name ++ "`"
  | .declareQueue name => "failure to declare a queue `" ++ name ++ "`"
  | .bindQueue exchange queue =>
    "failure to binding exchange `" ++ exchange ++ "` to queue `" ++ queue ++ "`"
  | .publishing => "failure to publish"
  | .parsePayload => "failure to parse payload"
  | .ack => "failure to ack message"
  | .nack => "failure to nack message"
  | .reject => "failure to reject message"
  | .qos details => "failure to configure qos `" ++ details ++ "`"
  | .consumerDeclaration => "consumer declaration error"
  | .consumer details => "failure to consume message `" ++ details ++ "`"
  | .notConnected => "not connected to a server"
  | .alreadyClosed => "already closed: not connected to the server"
  | .alreadyStarted => "supervisor already started"
  | .shutdown => "client is shutting down"

def isTransient : ClientError → Bool
  | .connection | .connectTimeout | .channelTimeout | .channel | .confirmSelect
  | .declareExchange _ | .declareQueue _ | .bindQueue _ _ | .publishing | .qos _
  | .consumerDeclaration | .consumer _ | .notConnected => true
  | _ => false

/-- Whether the failure comes from configuration or data and must not be retried. -/
def isFatal : ClientError → Bool
  | .invalidEndpoint _ | .invalidTopology _ | .config _ _ | .parsePayload => true
  | _ => false

theorem not_isFatal_of_isTransient {error : ClientError} (transient : error.isTransient = true) :
    error.isFatal = false := by
  cases error <;> simp_all [isTransient, isFatal]

end ClientError

end AmqpClient
