import AmqpClient.Call
import AmqpClient.Wire.Fault
import AmqpClient.Wire.Method

/-!
# Calls over a link

A link carries operations to a broker and brings back their outcomes, whatever
they are. Every call of a client is made of such operations, and every fault
becomes one fixed error of the call.

A look-up declares its name passively. A broker closes the channel on which that
fails, so a look-up opens a channel of its own, and closes it again if it is
still open, whatever came of the look-up; the channel in use is not touched.
-/

set_option autoImplicit false

namespace AmqpClient.Wire

/-- One operation on a link. Connections and channels are known by number. -/
inductive Operation where
  | dial (endpoint : Endpoint)
  | openChannel (connection : Nat)
  /-- Sends a method on a channel and awaits its reply, if it has one. -/
  | invoke (channel : Nat) (method : Method)
  | closeConnection (connection : Nat)
  deriving DecidableEq, Repr, Inhabited

/-- Something that carries operations, with a state of its own. An operation that
makes something brings its number. -/
structure Link (σ : Type) where
  run : Operation → σ → Except Fault Nat × σ
  connectionOf : σ → Nat → Nat
  isConnectionOpen : σ → Nat → Bool
  isChannelOpen : σ → Nat → Bool

def callFailure (fault : Fault) : Call → ClientError
  | .connect _ => .connection
  | .openChannel _ => .channel
  | .queueExists _ queue | .declareQueue _ queue _ => .declareQueue queue
  | .exchangeExists _ exchange _ | .declareExchange _ exchange _ _ => .declareExchange exchange
  | .bindQueue _ queue exchange _ => .bindQueue exchange queue
  | .confirmSelect _ => .confirmSelect
  | .qos .. => .qos fault.message
  | .publish .. => .publishing
  | .consume .. => .consumerDeclaration
  | .closeChannel _ => .channel
  | .closeConnection _ => .connection

def confirmationOutcome (outcome : Except Fault Confirmation) :
    Except ClientError Confirmation :=
  outcome.mapError fun _ => .publishing

def streamOutcome (item : Except Fault Delivery) : Except ClientError Delivery :=
  item.mapError fun fault => .consumer fault.message

namespace Link

variable {σ : Type} (link : Link σ)

def request (call : Call) (operation : Operation) (answer : Nat → Answer) (state : σ) :
    Reply × σ :=
  let (outcome, state) := link.run operation state
  match outcome with
  | .ok number => (.ok (answer number), state)
  | .error fault => (.error (callFailure fault call), state)

def releaseChannel (channel : Nat) (state : σ) : σ :=
  if link.isChannelOpen state channel then (link.run (.invoke channel .closeChannel) state).2
  else state

def lookUpReply (call : Call) : Except Fault Nat → Reply
  | .ok _ => .ok (.found true)
  | .error fault =>
    if fault.isNotFound then .ok (.found false) else .error (callFailure fault call)

/-- Looks something up on a channel of its own, next to the channel in use. -/
def lookUp (call : Call) (channel : Nat) (method : Method) (state : σ) : Reply × σ :=
  let (opened, state) := link.run (.openChannel (link.connectionOf state channel)) state
  match opened with
  | .error _ => (.error .channel, state)
  | .ok scratch =>
    let (outcome, state) := link.run (.invoke scratch method) state
    (lookUpReply call outcome, link.releaseChannel scratch state)

/-- Makes a call. What is closed already need not be closed. -/
def perform (call : Call) (state : σ) : Reply × σ :=
  let done : Nat → Answer := fun _ => .done
  let invoke (channel : Nat) (method : Method) (answer : Nat → Answer) : Reply × σ :=
    link.request call (.invoke channel method) answer state
  match call with
  | .connect endpoint => link.request call (.dial endpoint) .connection state
  | .openChannel connection => link.request call (.openChannel connection) .channel state
  | .queueExists channel queue => link.lookUp call channel (.declareQueue .passive queue []) state
  | .declareQueue channel queue arguments =>
    invoke channel (.declareQueue .durable queue arguments) done
  | .exchangeExists channel exchange kind =>
    link.lookUp call channel (.declareExchange .passive exchange kind []) state
  | .declareExchange channel exchange kind arguments =>
    invoke channel (.declareExchange .durable exchange kind arguments) done
  | .bindQueue channel queue exchange routingKey =>
    invoke channel (.bindQueue queue exchange routingKey) done
  | .confirmSelect channel => invoke channel .selectConfirm done
  | .qos channel prefetch => invoke channel (.qos prefetch) done
  | .publish channel message => invoke channel (.publish message) .confirmation
  | .consume channel queue tag => invoke channel (.consume queue tag) .stream
  | .closeChannel channel =>
    if link.isChannelOpen state channel then invoke channel .closeChannel done
    else (.ok .done, state)
  | .closeConnection connection =>
    if link.isConnectionOpen state connection then
      link.request call (.closeConnection connection) done state
    else (.ok .done, state)

def settle (channel tag : Nat) (settlement : Settlement) (state : σ) :
    Except ClientError Unit × σ :=
  let (outcome, state) := link.run (.invoke channel (.settle tag settlement)) state
  match outcome with
  | .ok _ => (.ok (), state)
  | .error _ => (.error settlement.failure, state)

end Link

end AmqpClient.Wire
