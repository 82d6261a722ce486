/-!
# Faults of a connection

Why an operation on a connection or a channel fails: the broker closed it with a
reply code, the line was cut, it was not open to begin with, or something else went
wrong. Soft codes end a channel, hard ones a connection.
-/

set_option autoImplicit false

namespace AmqpClient.Wire

/-- The reply codes with which a broker refuses an operation. -/
inductive ReplyCode where
  | contentTooLarge
  | noRoute
  | noConsumers
  | accessRefused
  | notFound
  | resourceLocked
  | preconditionFailed
  | connectionForced
  | invalidPath
  | frameError
  | syntaxError
  | commandInvalid
  | channelError
  | unexpectedFrame
  | resourceError
  | notAllowed
  | notImplemented
  | internalError
  deriving DecidableEq, Repr, Inhabited

namespace ReplyCode

def all : List ReplyCode :=
  [.contentTooLarge, .noRoute, .noConsumers, .accessRefused, .notFound, .resourceLocked,
   .preconditionFailed, .connectionForced, .invalidPath, .frameError, .syntaxError,
   .commandInvalid, .channelError, .unexpectedFrame, .resourceError, .notAllowed,
   .notImplemented, .internalError]

def number : ReplyCode → Nat
  | .contentTooLarge => 311
  | .noRoute => 312
  | .noConsumers => 313
  | .accessRefused => 403
  | .notFound => 404
  | .resourceLocked => 405
  | .preconditionFailed => 406
  | .connectionForced => 320
  | .invalidPath => 402
  | .frameError => 501
  | .syntaxError => 502
  | .commandInvalid => 503
  | .channelError => 504
  | .unexpectedFrame => 505
  | .resourceError => 506
  | .notAllowed => 530
  | .notImplemented => 540
  | .internalError => 541

def name : ReplyCode → String
  | .contentTooLarge => "CONTENT-TOO-LARGE"
  | .noRoute => "NO-ROUTE"
  | .noConsumers => "NO-CONSUMERS"
  | .accessRefused => "ACCESS-REFUSED"
  | .notFound => "NOT-FOUND"
  | .resourceLocked => "RESOURCE-LOCKED"
  | .preconditionFailed => "PRECONDITION-FAILED"
  | .connectionForced => "CONNECTION-FORCED"
  | .invalidPath => "INVALID-PATH"
  | .frameError => "FRAME-ERROR"
  | .syntaxError => "SYNTAX-ERROR"
  | .commandInvalid => "COMMAND-INVALID"
  | .channelError => "CHANNEL-ERROR"
  | .unexpectedFrame => "UNEXPECTED-FRAME"
  | .resourceError => "RESOURCE-ERROR"
  | .notAllowed => "NOT-ALLOWED"
  | .notImplemented => "NOT-IMPLEMENTED"
  | .internalError => "INTERNAL-ERROR"

def isSoft : ReplyCode → Bool
  | .contentTooLarge | .noRoute | .noConsumers | .accessRefused | .notFound | .resourceLocked
  | .preconditionFailed => true
  | _ => false

def ofNumber? (number : Nat) : Option ReplyCode :=
  all.find? (·.number = number)

theorem ofNumber?_number (code : ReplyCode) : ofNumber? code.number = some code := by
  cases code <;> rfl

end ReplyCode

/-- The stages of a connection's or a channel's life. -/
inductive LinkState where
  | initial
  | connected
  | closing
  | closed
  | failed
  deriving DecidableEq, Repr, Inhabited

def LinkState.name : LinkState → String
  | .initial => "Initial"
  | .connected => "Connected"
  | .closing => "Closing"
  | .closed => "Closed"
  | .failed => "Error"

inductive Fault where
  /-- The broker closed the channel or the connection. -/
  | protocol (code : ReplyCode) (text : String)
  | aborted
  | unreachable
  | channelState (state : LinkState)
  | connectionState (state : LinkState)
  /-- Any other failure, told by its text. -/
  | other (text : String)
  deriving DecidableEq, Repr, Inhabited

namespace Fault

def message : Fault → String
  | .protocol code text =>
    "protocol error: AMQP " ++ (if code.isSoft then "soft" else "hard") ++ " error: " ++
      code.name ++ ": " ++ text
  | .aborted => "IO error: connection aborted"
  | .unreachable => "IO error: connection refused"
  | .channelState state => "invalid channel state: " ++ state.name
  | .connectionState state => "invalid connection state: " ++ state.name
  | .other text => text

def isNotFound : Fault → Bool
  | .protocol .notFound _ => true
  | _ => false

/-- The fault of a channel closed by the broker. A number that is no reply code
only says that the channel is going away. -/
def ofChannelClose (number : Nat) (text : String) : Fault :=
  match ReplyCode.ofNumber? number with
  | some code => .protocol code text
  | none => .channelState .closing

def ofConnectionClose (number : Nat) (text : String) : Fault :=
  match ReplyCode.ofNumber? number with
  | some code => .protocol code text
  | none => .connectionState .closed

end Fault

end AmqpClient.Wire
