import AmqpClient.Address.Text
import AmqpClient.Simulation.Rehearsal

/-!
# A workbench over a network

The calls of a client made one by one, and whole clients, over a network with a
scripted broker. A step uses what the steps before it have opened; one for which
something is lacking says so. What is still open at the end is closed. Addresses
are read as URLs here.
-/

set_option autoImplicit false

namespace AmqpClient.Simulation

scoped instance : AddressParser := ⟨Address.parse?⟩

structure TakenDelivery where
  channel : Nat
  delivery : Delivery
  isSettled : Bool := false
  deriving Inhabited

structure Workbench where
  address : String
  endpoint : Except ClientError Endpoint
  network : Wire.Network
  connections : List Nat := []
  channels : List Nat := []
  stream? : Option Nat := none
  deliveries : List TakenDelivery := []
  producer? : Option Scenario := none
  /-- The number of message identities drawn so far. -/
  messageCount : Nat := 0

/-- One step on a workbench. A channel is named by its place among those opened;
without a name it is the newest. -/
inductive BenchStep where
  | connect
  | openChannel
  | call (channel? : Option Nat) (make : Nat → Call)
  | install (channel? : Option Nat) (topology : Topology)
  | channelEnd (channel? : Option Nat)
  | closeConnection
  | connectionEnd
  | next
  /-- Settles a delivery by its place among those taken. -/
  | settle (place : Nat) (settlement : Settlement)
  | script (behaviours : List (String × List Wire.Behaviour))
  | startProducer (config : Config)
  | push (content : PushContent) (priority : UInt8)
  | stopProducer
  /-- Runs a consumer until it has handled this many deliveries. -/
  | consumer (config : Config) (count : Nat)

inductive BenchResult where
  | lacking (part : String)
  | done (result : Except ClientError Unit)
  | opened (place : Nat)
  | found (isFound : Bool)
  | confirmed (outcome : Except ClientError Confirmation)
  | unwritten (error : ClientError)
  /-- Why a connection or a channel has ended, if it has. -/
  | ended (reason? : Option String)
  | item (item : Except ClientError Delivery)
  | streamOver
  | pending
  | report (result : Option TaskResult)
  | stopped (result : Option TaskResult) (state : SupervisorState)
  | consumed (seen : List Delivery) (closed consumed : Option TaskResult)
  deriving Inhabited

namespace Workbench

def channelAt? (bench : Workbench) (place? : Option Nat) : Option Nat :=
  match place? with
  | some place => bench.channels[place]?
  | none => bench.channels.getLast?

def perform (call : Call) (bench : Workbench) : Reply × Workbench :=
  let (reply, network) := Wire.Network.link.perform call bench.network
  (reply, { bench with network })

def observe (call : Call) (reply : Reply) (bench : Workbench) : Workbench × BenchResult :=
  match reply, call with
  | .ok (.confirmation id), _ => (bench, .confirmed (bench.network.confirmed id))
  | .ok (.stream id), _ => ({ bench with stream? := some id }, .done (.ok ()))
  | .ok (.found isFound), _ => (bench, .found isFound)
  | .ok (.connection id), _ =>
    ({ bench with connections := bench.connections ++ [id] }, .done (.ok ()))
  | .ok (.channel id), _ =>
    ({ bench with channels := bench.channels ++ [id] }, .opened bench.channels.length)
  | .ok .done, _ => (bench, .done (.ok ()))
  | .error error, .publish _ _ => (bench, .unwritten error)
  | .error error, _ => (bench, .done (.error error))

def call (call : Call) (bench : Workbench) : Workbench × BenchResult :=
  let (reply, bench) := bench.perform call
  bench.observe call reply

def world (bench : Workbench) : World :=
  { broker := { network? := some bench.network }, messageCount := bench.messageCount }

def takeBack (world : World) (bench : Workbench) : Workbench :=
  { bench with
    network := world.broker.network?.getD bench.network
    messageCount := world.messageCount }

def lend (scenario : Scenario) (bench : Workbench) : Scenario :=
  let broker := { scenario.world.broker with network? := some bench.network }
  { scenario with world := { scenario.world with broker, messageCount := bench.messageCount } }

def client (kind : ClientKind) (config : Config) (bench : Workbench) :
    Except ClientError Scenario :=
  Scenario.ofClient kind { config with address := bench.address } {} {} config.consumerSettings
    bench.world

def startProducer (config : Config) (bench : Workbench) : Workbench × BenchResult :=
  match bench.client .producer config with
  | .error error => (bench, .done (.error error))
  | .ok scenario =>
    let (scenario, result) := scenario.awaitJob (.waitReady { after := 0 } false)
    ({ bench.takeBack scenario.world with producer? := some scenario }, .report result)

/-- Pushes on a producer. A hand-off is followed by a wait for its confirmation. -/
def push (content : PushContent) (priority : UInt8) (producer : Scenario) (bench : Workbench) :
    Workbench × BenchResult :=
  let (scenario, job) := (bench.lend producer).pushJob content priority []
  let (scenario, result) := scenario.awaitJob job
  let (scenario, result) :=
    match result, scenario.world.kept.find? (·.label = Scenario.foregroundLabel) with
    | some .pending, some kept =>
      let world := { scenario.world with kept := [] }
      { scenario with world }.awaitJob (.confirmWait kept)
    | result, _ => (scenario, result)
  ({ bench.takeBack scenario.world with producer? := some scenario }, .report result)

def stopProducer (producer : Scenario) (bench : Workbench) : Workbench × BenchResult :=
  let (scenario, result) := (bench.lend producer).awaitJob (.shutdown false)
  ({ bench.takeBack scenario.world with producer? := some scenario },
    .stopped result scenario.world.cells.state)

def handledCount (world : World) : Nat :=
  world.log.countP fun entry =>
    match entry.event with
    | .handled .. => true
    | _ => false

def consumerLabel : String := "consumer"

/-- Runs a consumer that acknowledges every delivery, and closes it once it has
handled as many as are wanted. -/
def runConsumer (config : Config) (count : Nat) (bench : Workbench) : Workbench × BenchResult :=
  match bench.client .consumer config with
  | .error error => (bench, .done (.error error))
  | .ok scenario =>
    let world :=
      scenario.world.spawn (some consumerLabel) (scenario.consumeJob scenario.workers)
    let world := world.runUntil (fun world => count ≤ handledCount world) stepLimit
    let (world, closed) := world.awaitReport Scenario.foregroundLabel (.shutdown false)
    let world := world.runUntil (fun world => (world.report? consumerLabel).isSome) stepLimit
    (bench.takeBack world,
      .consumed (world.seen.map (·.delivery)) closed (world.report? consumerLabel))

def next (stream : Nat) (bench : Workbench) : Workbench × BenchResult :=
  let (look, network) := bench.network.nextItem stream
  let bench := { bench with network }
  match look with
  | .pending => (bench, .pending)
  | .ended => (bench, .streamOver)
  | .item item =>
    match Wire.streamOutcome item with
    | .ok delivery =>
      let taken : TakenDelivery := { channel := network.streamChannel stream, delivery }
      ({ bench with deliveries := bench.deliveries ++ [taken] }, .item (.ok delivery))
    | .error error => (bench, .item (.error error))

def settleTaken (place : Nat) (taken : TakenDelivery) (settlement : Settlement)
    (bench : Workbench) : Workbench × BenchResult :=
  let (route, isSettled) := settle taken.isSettled settlement
  let bench := { bench with deliveries := bench.deliveries.set place { taken with isSettled } }
  match route with
  | .answered => (bench, .done (.ok ()))
  | .forwarded settlement =>
    let (result, network) :=
      Wire.Network.link.settle taken.channel taken.delivery.tag settlement bench.network
    ({ bench with network }, .done result)

def install (channel : Nat) (topology : Topology) (bench : Workbench) : Workbench × BenchResult :=
  let (world, result) := bench.world.await (.install topology channel topology.beginInstall)
  (bench.takeBack world, .done result)

/-- What is lacking without a connection, a channel, a stream, a delivery or a
producer. -/
def lacking (part : String) (bench : Workbench) : Workbench × BenchResult :=
  (bench, .lacking ("no " ++ part))

def step (bench : Workbench) (step : BenchStep) : Workbench × BenchResult :=
  let onChannel (place? : Option Nat) (act : Nat → Workbench × BenchResult) :
      Workbench × BenchResult :=
    match bench.channelAt? place? with
    | some channel => act channel
    | none => bench.lacking "channel"
  let onConnection (act : Nat → Workbench × BenchResult) : Workbench × BenchResult :=
    match bench.connections.getLast? with
    | some connection => act connection
    | none => bench.lacking "connection"
  let onProducer (act : Scenario → Workbench × BenchResult) : Workbench × BenchResult :=
    match bench.producer? with
    | some producer => act producer
    | none => bench.lacking "producer"
  match step with
  | .connect =>
    match bench.endpoint with
    | .ok endpoint => bench.call (.connect endpoint)
    | .error error => (bench, .done (.error error))
  | .openChannel => onConnection fun connection => bench.call (.openChannel connection)
  | .call place? make => onChannel place? fun channel => bench.call (make channel)
  | .install place? topology => onChannel place? fun channel => bench.install channel topology
  | .channelEnd place? =>
    onChannel place? fun channel => (bench, .ended (bench.network.channelCell channel).closed?)
  | .closeConnection =>
    onConnection fun connection => bench.call (.closeConnection connection)
  | .connectionEnd =>
    onConnection fun connection =>
      (bench, .ended (bench.network.connectionCell connection).closed?)
  | .next =>
    match bench.stream? with
    | some stream => bench.next stream
    | none => bench.lacking "stream"
  | .settle place settlement =>
    match bench.deliveries[place]? with
    | some taken => bench.settleTaken place taken settlement
    | none => bench.lacking "delivery"
  | .script behaviours =>
    let network := behaviours.foldl
      (fun (network : Wire.Network) entry => network.appendScript entry.1 entry.2) bench.network
    ({ bench with network }, .pending)
  | .startProducer config => bench.startProducer config
  | .push content priority => onProducer fun producer => bench.push content priority producer
  | .stopProducer => onProducer bench.stopProducer
  | .consumer config count => bench.runConsumer config count

def closeAll (bench : Workbench) : Workbench :=
  bench.connections.foldl (fun bench connection => (bench.perform (.closeConnection connection)).2)
    bench

/-- Performs steps in order: their results, and everything that the broker has
received in the end. -/
def run (bench : Workbench) (steps : List BenchStep) : List BenchResult × Wire.Network :=
  let (bench, results) := steps.foldl
    (fun (bench, results) step =>
      let (bench, result) := Workbench.step bench step
      (bench, result :: results))
    (bench, [])
  (results.reverse, bench.closeAll.network)

end Workbench

end AmqpClient.Simulation
