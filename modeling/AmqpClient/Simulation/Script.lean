import AmqpClient.Message

/-!
# Scripts

What a simulated broker and a simulated handler do beside their plain work. A
script is a list of behaviours for one kind of call, used up from the front; a
call without one succeeds at once.
-/

set_option autoImplicit false

namespace AmqpClient.Simulation

/-- The kinds of calls that have scripts of their own. -/
inductive ScriptKey where
  | connect
  | openChannel
  | queueExists
  | declareQueue
  | exchangeExists
  | declareExchange
  | bindQueue
  | confirmSelect
  | qos
  | publish
  | consume
  | closeChannel
  | closeConnection
  | confirm
  | ack
  | nack
  | reject
  deriving DecidableEq, Repr, Inhabited

namespace ScriptKey

def all : List ScriptKey :=
  [.connect, .openChannel, .queueExists, .declareQueue, .exchangeExists, .declareExchange,
   .bindQueue, .confirmSelect, .qos, .publish, .consume, .closeChannel, .closeConnection,
   .confirm, .ack, .nack, .reject]

def name : ScriptKey → String
  | .connect => "connect"
  | .openChannel => "open_channel"
  | .queueExists => "queue_exists"
  | .declareQueue => "declare_queue"
  | .exchangeExists => "exchange_exists"
  | .declareExchange => "declare_exchange"
  | .bindQueue => "bind_queue"
  | .confirmSelect => "confirm_select"
  | .qos => "qos"
  | .publish => "publish"
  | .consume => "consume"
  | .closeChannel => "close_channel"
  | .closeConnection => "close_connection"
  | .confirm => "confirm"
  | .ack => "ack"
  | .nack => "nack"
  | .reject => "reject"

def ofName? (name : String) : Option ScriptKey :=
  all.find? (·.name = name)

end ScriptKey

/-- What happens during one call, in the order of the fields: a delay, the end of
the calling channel, the end of the calling connection, a hang for good, a
failure. The last fields say how a call that takes effect does so. -/
structure Behaviour where
  delay : Nat := 0
  closeChannel : Option String := none
  closeConnection : Option String := none
  hangs : Bool := false
  error : Option ClientError := none
  /-- A new connection or channel is closed at once for this reason. -/
  thenClose : Option String := none
  /-- A new connection or channel loses its notifier at once. -/
  thenDrop : Bool := false
  outcome : Confirmation := .ack
  /-- A confirmation requests a shutdown just before it comes. -/
  requestsShutdown : Bool := false
  deriving DecidableEq, Repr, Inhabited

abbrev Scripts := ScriptKey → List Behaviour

namespace Scripts

def append (key : ScriptKey) (behaviours : List Behaviour) (scripts : Scripts) : Scripts :=
  fun other => if other = key then scripts key ++ behaviours else scripts other

def take (key : ScriptKey) (scripts : Scripts) : Behaviour × Scripts :=
  match scripts key with
  | [] => ({}, scripts)
  | behaviour :: rest => (behaviour, fun other => if other = key then rest else scripts other)

end Scripts

/-- One run of a handler: a delay, a hang for good, settlements in order, another
delay, and the result. -/
structure HandlerBehaviour where
  delay : Nat := 0
  hangs : Bool := false
  settlements : List Settlement := []
  after : Nat := 0
  error : Option ClientError := none
  deriving DecidableEq, Repr, Inhabited

/-- The behaviours of a handler: for each payload those not used yet, and the one
for everything else. -/
structure HandlerScript where
  byPayload : Keyed (List HandlerBehaviour) := []
  default : HandlerBehaviour := { settlements := [.ack] }
  deriving Inhabited

namespace HandlerScript

def append (payload : String) (behaviours : List HandlerBehaviour) (script : HandlerScript) :
    HandlerScript :=
  let present := (Keyed.get? script.byPayload payload).getD []
  { script with byPayload := Keyed.insert payload (present ++ behaviours) script.byPayload }

def take (payload : String) (script : HandlerScript) : HandlerBehaviour × HandlerScript :=
  match Keyed.get? script.byPayload payload with
  | some (behaviour :: rest) =>
    (behaviour, { script with byPayload := Keyed.insert payload rest script.byPayload })
  | _ => (script.default, script)

end HandlerScript

end AmqpClient.Simulation
