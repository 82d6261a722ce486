import AmqpClient.Consumer.Pool
import AmqpClient.Simulation.Script
import AmqpClient.Supervisor.Basic
import AmqpClient.Wire.Network

/-!
# A simulated broker

A broker held in memory: the names it has declared, one message queue, numbered
connections and channels with their close cells, delivery streams, and pending
confirmations. Calls play a scripted behaviour before they take effect. In place
of its own memory the broker may be reached over a network; then calls take
effect there.
-/

set_option autoImplicit false

namespace AmqpClient.Simulation

structure ConnectionRecord where
  id : Nat
  cell : CloseCell := {}
  deriving DecidableEq, Repr, Inhabited

structure ChannelRecord where
  id : Nat
  connection : Nat
  cell : CloseCell := {}
  /-- The limit of unsettled deliveries; zero is no limit. -/
  prefetch : Nat := 0
  deriving DecidableEq, Repr, Inhabited

structure StreamRecord where
  id : Nat
  channel : Nat
  isOver : Bool := false
  deriving DecidableEq, Repr, Inhabited

structure ConfirmationRecord where
  id : Nat
  behaviour : Behaviour
  /-- When its delay is over, once somebody awaits it. -/
  due : Option Nat := none
  deriving DecidableEq, Repr, Inhabited

structure Unsettled where
  channel : Nat
  delivery : Delivery
  deriving DecidableEq, Repr, Inhabited

structure Broker where
  queues : List String := []
  exchanges : List String := []
  scripts : Scripts := fun _ => []
  connections : List ConnectionRecord := []
  channels : List ChannelRecord := []
  streams : List StreamRecord := []
  confirmations : List ConfirmationRecord := []
  confirmationCount : Nat := 0
  /-- Messages waiting for a consumer, first first. Their tags mean nothing yet. -/
  queue : List Delivery := []
  unsettled : List Unsettled := []
  settledCount : Nat := 0
  tagCount : Nat := 0
  /-- Items that streams hand out before any message: a failure, or the end. -/
  streamItems : List (Option ClientError) := []
  /-- Whether every tag can be settled without a queue. -/
  acceptsAnyTag : Bool := false
  /-- The network on which calls take effect, if there is one. -/
  network? : Option Wire.Network := none
  deriving Inhabited

/-- A call on its way, whose behaviour acts when it is due. -/
structure Play where
  behaviour : Behaviour
  due : Nat
  isHung : Bool := false
  deriving DecidableEq, Repr, Inhabited

inductive PlayOutcome (α : Type) where
  | waiting
  | changed (play : Play)
  | returned (result : α)

namespace Play

def start (now : Nat) (behaviour : Behaviour) : Play :=
  { behaviour, due := now + behaviour.delay }

def timer? (play : Play) : Option Nat :=
  if play.isHung then none else some play.due

end Play

def scriptKey : Call → ScriptKey
  | .connect _ => .connect
  | .openChannel _ => .openChannel
  | .queueExists .. => .queueExists
  | .declareQueue .. => .declareQueue
  | .exchangeExists .. => .exchangeExists
  | .declareExchange .. => .declareExchange
  | .bindQueue .. => .bindQueue
  | .confirmSelect _ => .confirmSelect
  | .qos .. => .qos
  | .publish .. => .publish
  | .consume .. => .consume
  | .closeChannel _ => .closeChannel
  | .closeConnection _ => .closeConnection

def settlementKey : Settlement → ScriptKey
  | .ack => .ack
  | .nack _ => .nack
  | .reject _ => .reject

def callingChannel? : Call → Option Nat
  | .queueExists channel _ | .declareQueue channel _ _ | .exchangeExists channel _ _
  | .declareExchange channel _ _ _ | .bindQueue channel _ _ _ | .confirmSelect channel
  | .qos channel _ | .publish channel _ | .consume channel _ _ | .closeChannel channel =>
    some channel
  | .connect _ | .openChannel _ | .closeConnection _ => none

namespace Broker

/-- The close cell of a connection; one that was never opened is closed. -/
def connectionCell (broker : Broker) (id : Nat) : CloseCell :=
  match broker.network?, broker.connections.find? (·.id = id) with
  | some network, _ => network.connectionCell id
  | none, some connection => connection.cell
  | none, none => { dropped := true }

/-- The close cell of a channel; one that was never opened is closed. -/
def channelCell (broker : Broker) (id : Nat) : CloseCell :=
  match broker.network?, broker.channels.find? (·.id = id) with
  | some network, _ => network.channelCell id
  | none, some channel => channel.cell
  | none, none => { dropped := true }

/-- The channel of a stream; zero if there is none. -/
def streamChannel (broker : Broker) (id : Nat) : Nat :=
  match broker.network? with
  | some network => network.streamChannel id
  | none => ((broker.streams.find? (·.id = id)).map (·.channel)).getD 0

def signals (broker : Broker) : Signals :=
  { connection := broker.connectionCell, channel := broker.channelCell }

def callingConnection? (broker : Broker) : Call → Option Nat
  | .connect _ => none
  | .openChannel connection | .closeConnection connection => some connection
  | call =>
    (callingChannel? call).bind fun id =>
      (broker.channels.find? (·.id = id)).map (·.connection)

def endCell (reason? : Option String) (cell : CloseCell) : CloseCell :=
  if cell.dropped then cell
  else
    match reason? with
    | some reason => (cell.notify reason).drop
    | none => cell.drop

/-- Puts the unsettled messages of a channel back to the head of the queue, in the
order of their tags. -/
def releaseDeliveries (channel : Nat) (broker : Broker) : Broker :=
  let (returned, unsettled) := broker.unsettled.partition (·.channel = channel)
  let messages := (returned.map (·.delivery)).mergeSort fun left right => left.tag ≤ right.tag
  { broker with
    unsettled
    queue := (messages.map fun message => { message with redelivered := true }) ++ broker.queue }

def closeChannel (id : Nat) (reason? : Option String) (broker : Broker) : Broker :=
  let channels := broker.channels.map fun channel =>
    if channel.id = id then { channel with cell := endCell reason? channel.cell } else channel
  releaseDeliveries id { broker with channels }

def closeConnectionOnly (id : Nat) (reason? : Option String) (broker : Broker) : Broker :=
  let connections := broker.connections.map fun connection =>
    if connection.id = id then { connection with cell := endCell reason? connection.cell }
    else connection
  { broker with connections }

def closeConnection (id : Nat) (reason? : Option String) (broker : Broker) : Broker :=
  let channels := broker.channels.filter (·.connection = id)
  channels.foldl (fun broker channel => broker.closeChannel channel.id reason?)
    (broker.closeConnectionOnly id reason?)

def newestConnection? (broker : Broker) : Option Nat :=
  (broker.connections.reverse.find? fun connection => !connection.cell.isClosed).map (·.id)

def newestChannel? (broker : Broker) : Option Nat :=
  (broker.channels.reverse.find? fun channel => !channel.cell.isClosed).map (·.id)

def closesAtOnce (behaviour : Behaviour) : Option (Option String) :=
  match behaviour.thenClose with
  | some reason => some (some reason)
  | none => if behaviour.thenDrop then some none else none

def addName (name : String) (names : List String) : List String :=
  if names.contains name then names else names ++ [name]

def effect (behaviour : Behaviour) (broker : Broker) : Call → Broker × Answer
  | .connect _ =>
    let id := broker.connections.length + 1
    let broker := { broker with connections := broker.connections ++ [{ id }] }
    match closesAtOnce behaviour with
    | some reason? => (broker.closeConnection id reason?, .connection id)
    | none => (broker, .connection id)
  | .openChannel connection =>
    let id := broker.channels.length + 1
    let broker := { broker with channels := broker.channels ++ [{ id, connection }] }
    match closesAtOnce behaviour with
    | some reason? => (broker.closeChannel id reason?, .channel id)
    | none => (broker, .channel id)
  | .queueExists _ queue => (broker, .found (broker.queues.contains queue))
  | .declareQueue _ queue _ => ({ broker with queues := addName queue broker.queues }, .done)
  | .exchangeExists _ exchange _ => (broker, .found (broker.exchanges.contains exchange))
  | .declareExchange _ exchange _ _ =>
    ({ broker with exchanges := addName exchange broker.exchanges }, .done)
  | .bindQueue .. | .confirmSelect _ => (broker, .done)
  | .qos id prefetch =>
    let channels := broker.channels.map fun channel =>
      if channel.id = id then { channel with prefetch := prefetch.toNat } else channel
    ({ broker with channels }, .done)
  | .publish .. =>
    let (behaviour, scripts) := broker.scripts.take .confirm
    let id := broker.confirmationCount + 1
    ({ broker with
       scripts
       confirmationCount := id
       confirmations := broker.confirmations ++ [{ id, behaviour }] }, .confirmation id)
  | .consume channel _ _ =>
    let id := broker.streams.length + 1
    ({ broker with streams := broker.streams ++ [{ id, channel }] }, .stream id)
  | .closeChannel channel => (broker.closeChannel channel none, .done)
  | .closeConnection connection => (broker.closeConnection connection none, .done)

def answer (behaviour : Behaviour) (call : Call) (broker : Broker) : Broker × Reply :=
  match broker.network? with
  | some network =>
    let (reply, network) := Wire.Network.link.perform call network
    ({ broker with network? := some network }, reply)
  | none => (broker.effect behaviour call).map id .ok

/-- Whether a call is refused because what it is made on is closed. Closing is
always possible, and a network refuses for itself. -/
def refuses (broker : Broker) (call : Call) : Bool :=
  broker.network?.isNone &&
    match call with
    | .connect _ | .closeChannel _ | .closeConnection _ => false
    | .openChannel connection => (broker.connectionCell connection).isClosed
    | call => (callingChannel? call).any fun channel => (broker.channelCell channel).isClosed

def takeBehaviour (now : Nat) (key : ScriptKey) (broker : Broker) : Broker × Play :=
  let (behaviour, scripts) := broker.scripts.take key
  ({ broker with scripts }, Play.start now behaviour)

def playCloses (channel? connection? : Option Nat) (behaviour : Behaviour) (broker : Broker) :
    Broker :=
  let broker :=
    match channel?, behaviour.closeChannel with
    | some channel, some reason => broker.closeChannel channel (some reason)
    | _, _ => broker
  match connection?, behaviour.closeConnection with
  | some connection, some reason => broker.closeConnection connection (some reason)
  | _, _ => broker

/-- Looks at a behaviour that is under way. When it is due it closes what it
closes, and then hangs, fails, or lets `effect` happen. -/
def resume {α : Type} (now : Nat) (channel? connection? : Option Nat)
    (effect : Broker → Broker × Except ClientError α) (play : Play) (broker : Broker) :
    Broker × PlayOutcome (Except ClientError α) :=
  if play.isHung || now < play.due then (broker, .waiting)
  else
    let broker := broker.playCloses channel? connection? play.behaviour
    if play.behaviour.hangs then (broker, .changed { play with isHung := true })
    else
      match play.behaviour.error with
      | some error => (broker, .returned (.error error))
      | none =>
        let (broker, result) := effect broker
        (broker, .returned result)

def resumeCall (now : Nat) (call : Call) (play : Play) (broker : Broker) :
    Broker × PlayOutcome Reply :=
  broker.resume now (callingChannel? call) (broker.callingConnection? call)
    (answer play.behaviour call) play

/-- Settles a delivery. A tag that is not unsettled is refused. -/
def settleTag (tag : Nat) (settlement : Settlement) (broker : Broker) :
    Broker × Except ClientError Unit :=
  if broker.acceptsAnyTag then (broker, .ok ())
  else
    match broker.unsettled.find? (·.delivery.tag = tag) with
    | none => (broker, .error settlement.failure)
    | some entry =>
      let broker :=
        { broker with unsettled := broker.unsettled.filter (·.delivery.tag ≠ tag) }
      if settlement.requeues then
        ({ broker with queue := { entry.delivery with redelivered := true } :: broker.queue },
          .ok ())
      else ({ broker with settledCount := broker.settledCount + 1 }, .ok ())

/-- Settles a delivery of a channel, in memory or over the network. -/
def settleDelivery (channel tag : Nat) (settlement : Settlement) (broker : Broker) :
    Broker × Except ClientError Unit :=
  match broker.network? with
  | some network =>
    let (result, network) := Wire.Network.link.settle channel tag settlement network
    ({ broker with network? := some network }, result)
  | none => broker.settleTag tag settlement

def resumeSettlement (now channel tag : Nat) (settlement : Settlement) (play : Play)
    (broker : Broker) : Broker × PlayOutcome (Except ClientError Unit) :=
  broker.resume now (some channel)
    ((broker.channels.find? (·.id = channel)).map (·.connection))
    (settleDelivery channel tag settlement) play

def hasRoom (broker : Broker) (channel : Nat) : Bool :=
  match broker.channels.find? (·.id = channel) with
  | some record =>
    record.prefetch = 0 || (broker.unsettled.countP (·.channel = channel)) < record.prefetch
  | none => false

def endStream (id : Nat) (broker : Broker) : Broker :=
  { broker with
    streams := broker.streams.map fun stream =>
      if stream.id = id then { stream with isOver := true } else stream }

/-- What a stream in memory gives when it is asked: its end, if its channel is
closed; a queued item; or the next message, if there is room for it. A stream that
is asked again after its end breaks down with the given details. -/
def nextStored (overrun : String) (id : Nat) (broker : Broker) :
    Broker × Option Consumer.StreamItem :=
  match broker.streams.find? (·.id = id) with
  | none => (broker, some (.overrun overrun))
  | some stream =>
    if stream.isOver then (broker, some (.overrun overrun))
    else if (broker.channelCell stream.channel).isClosed then
      (broker.endStream id, some .ended)
    else
      match broker.streamItems with
      | some error :: streamItems => ({ broker with streamItems }, some (.failure error))
      | none :: streamItems => ({ broker with streamItems }.endStream id, some .ended)
      | [] =>
        match broker.queue with
        | [] => (broker, none)
        | message :: queue =>
          if broker.hasRoom stream.channel then
            let delivery := { message with tag := broker.tagCount + 1 }
            ({ broker with
               queue
               tagCount := delivery.tag
               unsettled := broker.unsettled ++ [{ channel := stream.channel, delivery }] },
              some (.delivery delivery))
          else (broker, none)

/-- What a stream gives when it is asked, if it gives anything now. -/
def nextItem (overrun : String) (id : Nat) (broker : Broker) :
    Broker × Option Consumer.StreamItem :=
  match broker.network? with
  | none => broker.nextStored overrun id
  | some network =>
    let (look, network) := network.nextItem id
    ({ broker with network? := some network },
      match look with
      | .pending => none
      | .ended => some .ended
      | .item item =>
        some
          (match Wire.streamOutcome item with
            | .ok delivery => .delivery delivery
            | .error error => .failure error))

inductive ConfirmationOutcome where
  | waiting
  | begun
  /-- It has come, and requests a shutdown if so marked. -/
  | resolved (outcome : Except ClientError Confirmation) (requestsShutdown : Bool)

/-- Looks at a confirmation in memory. Its delay begins when it is first looked
at. -/
def pollStored (now id : Nat) (broker : Broker) : Broker × ConfirmationOutcome :=
  match broker.confirmations.find? (·.id = id) with
  | none => (broker, .waiting)
  | some record =>
    match record.due with
    | none =>
      let due := some (now + record.behaviour.delay)
      let confirmations := broker.confirmations.map fun other =>
        if other.id = id then { other with due } else other
      ({ broker with confirmations }, .begun)
    | some due =>
      if now < due || record.behaviour.hangs then (broker, .waiting)
      else
        let outcome :=
          match record.behaviour.error with
          | some error => .error error
          | none => .ok record.behaviour.outcome
        ({ broker with confirmations := broker.confirmations.filter (·.id ≠ id) },
          .resolved outcome record.behaviour.requestsShutdown)

/-- Looks at a confirmation. Over a network it is there at once. -/
def pollConfirmation (now id : Nat) (broker : Broker) : Broker × ConfirmationOutcome :=
  match broker.network? with
  | some network => (broker, .resolved (network.confirmed id) false)
  | none => broker.pollStored now id

def confirmationTimer? (broker : Broker) (id : Nat) : Option Nat :=
  (broker.confirmations.find? (·.id = id)).bind fun record =>
    if record.behaviour.hangs then none else record.due

end Broker

end AmqpClient.Simulation
