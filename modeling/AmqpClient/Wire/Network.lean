import AmqpClient.CloseSignal
import AmqpClient.Keyed
import AmqpClient.Wire.Link

/-!
# A network with one scripted broker

Connections to a broker that answers every method well unless its script says
otherwise. A script is a list of behaviours for each method name, used up from
the front. The broker may close the channel, close the connection, or hang up;
what it says then becomes the reason of the end and the last item of every
stream that is cut off.
-/

set_option autoImplicit false

namespace AmqpClient.Wire

inductive Refusal where
  | closeChannel (number : Nat) (text : String)
  | closeConnection (number : Nat) (text : String)
  | hangUp
  deriving DecidableEq, Repr, Inhabited

structure Behaviour where
  refusal? : Option Refusal := none
  isNack : Bool := false
  deliveries : List Delivery := []
  /-- What happens after a new consumer has been given its deliveries. -/
  afterwards? : Option Refusal := none
  deriving DecidableEq, Repr, Inhabited

structure Connection where
  state : LinkState := .connected
  cell : CloseCell := {}
  /-- The number of channels opened or tried so far. -/
  channelCount : Nat := 0
  deriving DecidableEq, Repr, Inhabited

structure Channel where
  connection : Nat
  number : Nat
  state : LinkState := .connected
  cell : CloseCell := {}
  /-- Whether the broker confirms what is published. -/
  confirms : Bool := false
  deriving DecidableEq, Repr, Inhabited

/-- The deliveries of a consumer that were not taken yet. -/
structure Stream where
  channel : Nat
  items : List (Except Fault Delivery) := []
  isOver : Bool := false
  deriving Inhabited

/-- The broker and everything opened to it. Connections, channels, streams and
confirmations are numbered from one in the order of their making. -/
structure Network where
  host : String
  port : Nat
  script : Keyed (List Behaviour) := []
  connections : List Connection := []
  channels : List Channel := []
  streams : List Stream := []
  confirmations : List (Except Fault Confirmation) := []
  received : List Frame := []
  deriving Inhabited

inductive StreamLook where
  | pending
  | item (item : Except Fault Delivery)
  | ended
  deriving Inhabited

def Refusal.fault : Refusal → Fault
  | .closeChannel number text => .ofChannelClose number text
  | .closeConnection number text => .ofConnectionClose number text
  | .hangUp => .aborted

namespace Network

def numbered? {α : Type} (members : List α) (number : Nat) : Option α :=
  if number = 0 then none else members[number - 1]?

def connection? (network : Network) (id : Nat) : Option Connection :=
  numbered? network.connections id

def channel? (network : Network) (id : Nat) : Option Channel :=
  numbered? network.channels id

def isConnectionOpen (network : Network) (id : Nat) : Bool :=
  (network.connection? id).any (·.state = .connected)

def isChannelOpen (network : Network) (id : Nat) : Bool :=
  (network.channel? id).any (·.state = .connected)

/-- The connection of a channel; zero if there is none. -/
def connectionOf (network : Network) (id : Nat) : Nat :=
  ((network.channel? id).map (·.connection)).getD 0

/-- The close cell of a connection; one that was never opened is closed. -/
def connectionCell (network : Network) (id : Nat) : CloseCell :=
  ((network.connection? id).map (·.cell)).getD { dropped := true }

/-- The close cell of a channel; one that was never opened is closed. -/
def channelCell (network : Network) (id : Nat) : CloseCell :=
  ((network.channel? id).map (·.cell)).getD { dropped := true }

def appendScript (name : String) (behaviours : List Behaviour) (network : Network) : Network :=
  let present := (Keyed.get? network.script name).getD []
  { network with script := Keyed.insert name (present ++ behaviours) network.script }

def receive (frame : Frame) (network : Network) : Behaviour × Network :=
  let network := { network with received := frame :: network.received }
  match Keyed.get? network.script frame.method.name with
  | some (behaviour :: rest) =>
    (behaviour, { network with script := Keyed.insert frame.method.name rest network.script })
  | _ => ({}, network)

def endCell (fault? : Option Fault) (cell : CloseCell) : CloseCell :=
  match fault? with
  | some fault => cell.notify fault.message
  | none => cell

/-- Ends a stream. A fault is its last item. -/
def endStream (fault? : Option Fault) (stream : Stream) : Stream :=
  if stream.isOver then stream
  else { stream with items := stream.items ++ (fault?.map .error).toList, isOver := true }

def endChannel (id : Nat) (state : LinkState) (fault? : Option Fault) (network : Network) :
    Network :=
  match network.channel? id with
  | none => network
  | some channel =>
    if channel.state ≠ .connected then network
    else
      { network with
        channels :=
          network.channels.set (id - 1) { channel with state, cell := endCell fault? channel.cell }
        streams :=
          network.streams.map fun stream =>
            if stream.channel = id then endStream fault? stream else stream }

def endConnection (id : Nat) (state : LinkState) (fault? : Option Fault) (network : Network) :
    Network :=
  match network.connection? id with
  | none => network
  | some connection =>
    if connection.state ≠ .connected then network
    else
      let network :=
        { network with
          connections :=
            network.connections.set (id - 1)
              { connection with state, cell := endCell fault? connection.cell } }
      (List.range network.channels.length).foldl
        (fun network index =>
          if network.connectionOf (index + 1) = id then
            network.endChannel (index + 1) state fault?
          else network)
        network

def breakConnection (id : Nat) (fault : Fault) (network : Network) : Network :=
  network.endConnection id .failed (some fault)

def refuse (channel : Nat) (refusal : Refusal) (network : Network) : Network :=
  match refusal with
  | .closeChannel .. => network.endChannel channel .closed (some refusal.fault)
  | .closeConnection .. | .hangUp =>
    network.breakConnection (network.connectionOf channel) refusal.fault

def refuseIf (channel : Nat) (refusal? : Option Refusal) (network : Network) : Network :=
  match refusal? with
  | some refusal => network.refuse channel refusal
  | none => network

def listensAt (network : Network) (endpoint : Endpoint) : Bool :=
  !endpoint.address.secure && endpoint.address.host = network.host &&
    endpoint.address.port = network.port

/-- Sends the methods of a handshake up to the first that is refused. -/
def shakeHands : List Method → Network → Option Fault × Network
  | [], network => (none, network)
  | method :: rest, network =>
    let (behaviour, network) := network.receive { channel := 0, method }
    match behaviour.refusal? with
    | some refusal => (some refusal.fault, network)
    | none => shakeHands rest network

def dial (endpoint : Endpoint) (network : Network) : Except Fault Nat × Network :=
  if network.listensAt endpoint then
    let (fault?, network) := network.shakeHands (Method.handshake endpoint)
    match fault? with
    | some fault => (.error fault, network)
    | none =>
      (.ok (network.connections.length + 1),
        { network with connections := network.connections ++ [{}] })
  else (.error .unreachable, network)

/-- What becomes of a connection on which opening a channel is refused. A channel
that is not open yet cannot be closed, so trying it breaks the connection. -/
def openRefusal : Refusal → Fault
  | .closeChannel .. => .channelState .initial
  | refusal => refusal.fault

def openChannel (id : Nat) (network : Network) : Except Fault Nat × Network :=
  match network.connection? id with
  | none => (.error (.connectionState .closed), network)
  | some connection =>
    if connection.state ≠ .connected then (.error (.connectionState connection.state), network)
    else
      let number := connection.channelCount + 1
      let network :=
        { network with
          connections := network.connections.set (id - 1) { connection with channelCount := number } }
      let (behaviour, network) := network.receive { channel := number, method := .openChannel }
      match behaviour.refusal? with
      | some refusal =>
        let fault := openRefusal refusal
        (.error fault, network.breakConnection id fault)
      | none =>
        (.ok (network.channels.length + 1),
          { network with channels := network.channels ++ [{ connection := id, number }] })

def confirmation (confirms : Bool) (behaviour : Behaviour) : Except Fault Confirmation :=
  if confirms then
    match behaviour.refusal? with
    | some refusal => .error refusal.fault
    | none => .ok (if behaviour.isNack then .nack else .ack)
  else .ok .notRequested

/-- The broker's part in a method that it has received on an open channel. Methods
without a reply succeed even if the broker refuses them. -/
def carryOut (id : Nat) (channel : Channel) (method : Method) (behaviour : Behaviour)
    (network : Network) : Except Fault Nat × Network :=
  let replied (succeed : Network → Network) (answer : Nat) : Except Fault Nat × Network :=
    match behaviour.refusal? with
    | some refusal => (.error refusal.fault, network.refuse id refusal)
    | none => (.ok answer, succeed network)
  match method with
  | .closeChannel => replied (·.endChannel id .closed none) 0
  | .selectConfirm =>
    let channels := network.channels.set (id - 1) { channel with confirms := true }
    replied ({ · with channels }) 0
  | .publish _ =>
    let confirmations := network.confirmations ++ [confirmation channel.confirms behaviour]
    (.ok confirmations.length, { network with confirmations }.refuseIf id behaviour.refusal?)
  | .consume .. =>
    let stream : Stream := { channel := id, items := behaviour.deliveries.map .ok }
    let streams := network.streams ++ [stream]
    replied (fun network => { network with streams }.refuseIf id behaviour.afterwards?)
      streams.length
  | .settle .. => (.ok 0, network.refuseIf id behaviour.refusal?)
  | _ => replied (fun network => network) 0

def invoke (id : Nat) (method : Method) (network : Network) : Except Fault Nat × Network :=
  match network.channel? id with
  | none => (.error (.channelState .closed), network)
  | some channel =>
    if channel.state ≠ .connected then (.error (.channelState channel.state), network)
    else
      let (behaviour, network) := network.receive { channel := channel.number, method }
      network.carryOut id channel method behaviour

def closeConnection (id : Nat) (network : Network) : Except Fault Nat × Network :=
  match network.connection? id with
  | none => (.error (.connectionState .closed), network)
  | some connection =>
    if connection.state ≠ .connected then (.error (.connectionState connection.state), network)
    else
      let (behaviour, network) := network.receive { channel := 0, method := .closeConnection }
      match behaviour.refusal? with
      | some refusal => (.error refusal.fault, network.breakConnection id refusal.fault)
      | none => (.ok 0, network.endConnection id .closed none)

def run (operation : Operation) (network : Network) : Except Fault Nat × Network :=
  match operation with
  | .dial endpoint => network.dial endpoint
  | .openChannel connection => network.openChannel connection
  | .invoke channel method => network.invoke channel method
  | .closeConnection connection => network.closeConnection connection

def link : Link Network :=
  { run, connectionOf, isConnectionOpen, isChannelOpen }

def confirmed (id : Nat) (network : Network) : Except ClientError Confirmation :=
  match numbered? network.confirmations id with
  | some outcome => confirmationOutcome outcome
  | none => .error .publishing

def nextItem (id : Nat) (network : Network) : StreamLook × Network :=
  match numbered? network.streams id with
  | none => (.ended, network)
  | some stream =>
    match stream.items with
    | item :: items =>
      (.item item, { network with streams := network.streams.set (id - 1) { stream with items } })
    | [] => (if stream.isOver then .ended else .pending, network)

/-- The channel of a stream; zero if there is none. -/
def streamChannel (network : Network) (id : Nat) : Nat :=
  ((numbered? network.streams id).map (·.channel)).getD 0

/-- The place of a fresh message identity among those received, in the order of
their coming. -/
def freshPlace (network : Network) (id : MessageId) : Nat :=
  let fresh := network.received.reverse.filterMap fun frame =>
    match frame.method with
    | .publish message =>
      match message.id with
      | .fresh serial => some (MessageId.fresh serial)
      | .given _ => none
    | _ => none
  (fresh.eraseDups.findIdx (· = id)) + 1

end Network

end AmqpClient.Wire
