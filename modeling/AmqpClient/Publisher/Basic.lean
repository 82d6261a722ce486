import AmqpClient.Notice
import AmqpClient.Publisher.Claim
import AmqpClient.Supervisor.Basic
import AmqpClient.Trace

/-!
# Publishing

The message that a push writes, the settings of a publisher, and its reports.
-/

set_option autoImplicit false

namespace AmqpClient

structure PublisherSettings where
  /-- The longest wait for a confirmation, and the pause after a failure. -/
  resendDelay : Nat := 5000
  deriving DecidableEq, Repr, Inhabited

namespace Publisher

def jsonContentType : String := "application/json"

def textContentType : String := "text/plain"

/-- The message of a push: addressed by the topology, with the caller's trace
context in its headers. -/
def message (topology : Topology) (payload : Bytes) (contentType : String) (priority : UInt8)
    (id : MessageId) (trace : List (String × String)) : OutboundMessage :=
  { exchange := topology.publishTarget.1
    routingKey := topology.publishTarget.2
    payload
    contentType
    priority
    id
    headers := Trace.inject trace [] }

/-- What a push needs to know besides its message. -/
structure Plan where
  message : OutboundMessage
  /-- The longest wait for a confirmation, and the pause after a failure. -/
  resendDelay : Nat
  channelTimeout : Nat
  deriving DecidableEq, Repr, Inhabited

def writeFailed (error : ClientError) : Notice :=
  { level := .error, source := .publisher, message := "error publishing message",
    error := some error.message }

/-- The report of an attempt that failed before a confirmation was awaited. -/
def attemptFailed (error : ClientError) : Notice :=
  { level := .warning, source := .publisher, message := "push failed. retrying...",
    error := some error.message }

def unconfirmed (error? : Option ClientError) : Notice :=
  { level := .warning, source := .publisher, message := "push didn't confirm. retrying...",
    error := error?.map (·.message) }

def notSerializable (details : String) : Notice :=
  { level := .error, source := .publisher, message := "failure to serialize payload",
    error := some details }

end Publisher

end AmqpClient
