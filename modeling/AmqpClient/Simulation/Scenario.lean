import AmqpClient.Client
import AmqpClient.Json.Printer
import AmqpClient.Simulation.Scheduler

/-!
# Scenarios

A client and its simulated broker taken through a list of steps. After every
step everything that can run does so; then a snapshot tells what has happened
since the one before.
-/

set_option autoImplicit false

namespace AmqpClient.Simulation

inductive ClientKind where
  | producer
  | consumer
  /-- A supervisor that is not started, with a publisher and a consumer on it. -/
  | bare
  deriving DecidableEq, Repr, Inhabited

inductive PushContent where
  | raw (payload : Bytes)
  | json (value : Json)
  | unserializable
  /-- Written once; the confirmation is kept. -/
  | handOff (payload : Bytes)
  deriving Inhabited

/-- One step of a scenario. Work in the background has a label. -/
inductive Step where
  | start
  | advance (milliseconds : Nat)
  | shutdown (label : String)
  | waitReady (label : String) (after : Option Nat)
  | reconnect (generations : List Nat)
  | push (label : String) (content : PushContent) (priority : UInt8)
      (trace : List (String × String))
  | confirmWait (label kept : String)
  | confirmDrop (kept : String)
  | cancel (label : String)
  | consume (label : String) (workers : Option Nat)
  | enqueue (messages : List Delivery)
  /-- Queues one stream item: a failure, or the end. -/
  | stream (item : Option ClientError)
  | settle (tag : Nat) (settlement : Settlement)
  | closeChannel (id? : Option Nat) (reason? : Option String)
  | closeConnection (id? : Option Nat) (reason? : Option String) (alone : Bool)
  | forget
  | script (behaviours : List (ScriptKey × List Behaviour))
  | handler (byPayload : List (String × List HandlerBehaviour))
      (default? : Option HandlerBehaviour)
  | consumerSettings
  | holdSession
  | info

structure Visible where
  state : SupervisorState
  isReady : Bool
  session : Except ClientError Nat

inductive StepResult where
  | nothing
  | unit (result : Except ClientError Unit)
  | lacking (part : String)
  | missing
  | settled (result : Except ClientError Unit) (isSettled : Bool)
  | flag (value : Bool)
  | visible (visible : Visible)
  /-- The sessions held so far, and whether each is ready. -/
  | sessions (sessions : List (Session × Bool))
  | consumerSettings (settings : ConsumerSettings)
  | info (visible : Visible) (isShutDown : Bool) (plan : Supervisor.Plan) (isBare : Bool)

structure Snapshot where
  time : Nat
  state : SupervisorState
  generation : Option Nat
  queued : Nat
  unsettled : Nat
  settled : Nat
  result : StepResult
  log : List LogEntry
  completions : List Completion
  notices : List TimedNotice
  spans : List TimedSpan

structure Scenario where
  kind : ClientKind
  plan : Supervisor.Plan
  publisher : PublisherSettings
  consumer : ConsumerSettings
  workers : Nat := 1
  held : List Session := []
  world : World

namespace Scenario

def startLoop (plan : Supervisor.Plan) (cells : SupervisorCells) (world : World) : World :=
  { world with cells }.spawn none (.loop plan .entry)

def ofClient [AddressParser] (kind : ClientKind) (config : Config) (settings : SupervisorSettings)
    (publisher : PublisherSettings) (consumer : ConsumerSettings) (world : World) :
    Except ClientError Scenario := do
  let role : ChannelRole := if kind = .producer then .producer else .consumer
  let client ← Client.start config role settings
  let world := startLoop client.plan client.cells world
  return { kind, plan := client.plan, publisher, consumer, workers := client.workers, world }

def ofSupervisor (endpoint : Endpoint) (topology : Topology) (role : ChannelRole)
    (settings : SupervisorSettings) (publisher : PublisherSettings) (consumer : ConsumerSettings)
    (world : World) : Except ClientError Scenario := do
  let plan ← Supervisor.Plan.build endpoint topology role settings
  return { kind := .bare, plan, publisher, consumer, world }

def modify (change : World → World) (scenario : Scenario) : Scenario :=
  { scenario with world := change scenario.world }

def visible (scenario : Scenario) : Visible :=
  let world := scenario.world
  { state := world.cells.state
    isReady := (world.cells.current world.signals).isSome
    session := (world.cells.readySession world.signals).map (·.generation) }

def pushJob (content : PushContent) (priority : UInt8) (trace : List (String × String))
    (scenario : Scenario) : Scenario × Job :=
  let world := scenario.world
  let plan (payload : Bytes) (contentType : String) : Publisher.Plan :=
    { message :=
        Publisher.message scenario.plan.topology payload contentType priority
          (.fresh world.messageCount) trace
      resendDelay := scenario.publisher.resendDelay
      channelTimeout := scenario.plan.settings.channelTimeout }
  let job : Job :=
    match content with
    | .raw payload => .push (plan payload Publisher.textContentType) .entry
    | .json value => .push (plan (Text.encodeUtf8 value.render) Publisher.jsonContentType) .entry
    | .unserializable => .refusedPush
    | .handOff payload => .handOff (plan payload Publisher.textContentType) .entry
  ({ scenario with world := { world with messageCount := world.messageCount + 1 } }, job)

def push (label : String) (content : PushContent) (priority : UInt8)
    (trace : List (String × String)) (scenario : Scenario) : Scenario :=
  let (scenario, job) := scenario.pushJob content priority trace
  scenario.modify (·.spawn (some label) job)

def consumeJob (workers : Nat) (scenario : Scenario) : Job :=
  .consume
    { queue := scenario.plan.topology.queue
      settings := scenario.consumer
      channelTimeout := scenario.plan.settings.channelTimeout
      workers }

def cancel (label : String) (world : World) : World :=
  match world.tasks.reverse.find? (·.label = some label) with
  | none => world
  | some task =>
    let world := world.removeTask task.id
    match task.job with
    | .push .. | .handOff .. => world.releaseClaim task.id
    | .confirmWait kept => world.releaseClaim kept.ticket
    | .consume _ =>
      let consumption := world.consumption task.id
      world.setConsumption task.id { consumption with pool := consumption.pool.cancel }
    | _ => world

def perform (scenario : Scenario) (step : Step) : Scenario × StepResult :=
  let world := scenario.world
  match step with
  | .start =>
    match world.cells.start with
    | .ok cells => (scenario.modify (startLoop scenario.plan cells), .unit (.ok ()))
    | .error error => (scenario, .unit (.error error))
  | .advance milliseconds => (scenario.modify (·.advance milliseconds), .nothing)
  | .shutdown label => (scenario.modify (·.spawn (some label) (.shutdown false)), .nothing)
  | .waitReady label after =>
    let waiter : SessionWaiter := { after := after.getD 0 }
    let reportsGeneration := scenario.kind ≠ .producer || after.isSome
    (scenario.modify (·.spawn (some label) (.waitReady waiter reportsGeneration)), .nothing)
  | .reconnect generations =>
    let cells := generations.foldl (fun cells generation => cells.requestReconnect generation)
      world.cells
    (scenario.modify ({ · with cells }), .nothing)
  | .push label content priority trace =>
    if scenario.kind = .consumer then (scenario, .lacking "no publisher")
    else (scenario.push label content priority trace, .nothing)
  | .confirmWait label kept =>
    match world.kept.find? (·.label = kept) with
    | none => (scenario, .missing)
    | some entry =>
      let world := { world with kept := world.kept.filter (·.label ≠ kept) }
      ({ scenario with world := world.spawn (some label) (.confirmWait entry) }, .nothing)
  | .confirmDrop kept =>
    match world.kept.find? (·.label = kept) with
    | none => (scenario, .flag false)
    | some entry =>
      let world := { world with kept := world.kept.filter (·.label ≠ kept) }
      ({ scenario with world := world.releaseClaim entry.ticket }, .flag true)
  | .cancel label => (scenario.modify (cancel label), .nothing)
  | .consume label workers =>
    if scenario.kind = .producer then (scenario, .lacking "no consumer")
    else
      let job := scenario.consumeJob (workers.getD scenario.workers)
      (scenario.modify (·.spawn (some label) job), .nothing)
  | .enqueue messages =>
    let broker := { world.broker with queue := world.broker.queue ++ messages }
    (scenario.modify ({ · with broker }), .nothing)
  | .stream item =>
    let broker := { world.broker with streamItems := world.broker.streamItems ++ [item] }
    (scenario.modify ({ · with broker }), .nothing)
  | .settle tag settlement =>
    match world.seen.find? (·.delivery.tag = tag) with
    | none => (scenario, .missing)
    | some entry =>
      let (world, result) := world.await (.settle entry.channel tag settlement)
      ({ scenario with world }, .settled result (world.isSettled tag))
  | .closeChannel id? reason? =>
    match id?.or world.broker.newestChannel? with
    | none => (scenario, .visible scenario.visible)
    | some id =>
      let broker := world.broker.closeChannel id reason?
      let scenario := scenario.modify ({ · with broker })
      (scenario, .visible scenario.visible)
  | .closeConnection id? reason? alone =>
    match id?.or world.broker.newestConnection? with
    | none => (scenario, .visible scenario.visible)
    | some id =>
      let broker :=
        if alone then world.broker.closeConnectionOnly id reason?
        else world.broker.closeConnection id reason?
      let scenario := scenario.modify ({ · with broker })
      (scenario, .visible scenario.visible)
  | .forget =>
    let broker := { world.broker with queues := [], exchanges := [] }
    (scenario.modify ({ · with broker }), .nothing)
  | .script behaviours =>
    let scripts := behaviours.foldl (fun scripts entry => scripts.append entry.1 entry.2)
      world.broker.scripts
    let broker := { world.broker with scripts }
    (scenario.modify ({ · with broker }), .nothing)
  | .handler byPayload default? =>
    let handlers := byPayload.foldl (fun handlers entry => handlers.append entry.1 entry.2)
      world.handlers
    let handlers := { handlers with default := default?.getD handlers.default }
    (scenario.modify ({ · with handlers }), .nothing)
  | .consumerSettings =>
    if scenario.kind = .bare then (scenario, .consumerSettings scenario.consumer)
    else (scenario, .lacking "raw only")
  | .holdSession =>
    let held := scenario.held ++ (world.cells.current world.signals).toList
    ({ scenario with held },
      .sessions (held.map fun session => (session, session.isReady world.signals)))
  | .info =>
    (scenario,
      .info scenario.visible world.cells.isShutDown scenario.plan (scenario.kind = .bare))

/-- Everything recorded since the last snapshot, and the state as it is. -/
def snapshot (result : StepResult) (scenario : Scenario) : Scenario × Snapshot :=
  let world := scenario.world
  let snapshot : Snapshot :=
    { time := world.now
      state := world.cells.state
      generation := (world.cells.current world.signals).map (·.generation)
      queued := world.broker.queue.length
      unsettled := world.broker.unsettled.length
      settled := world.broker.settledCount
      result
      log := sortLog world.log.reverse
      completions := sortCompletions world.completions.reverse
      notices := world.notices.reverse
      spans := world.spans.reverse }
  ({ scenario with world := { world with log := [], completions := [], notices := [], spans := [] } },
    snapshot)

def advanceBy (scenario : Scenario) (step : Step) : Scenario × Snapshot :=
  let (scenario, result) := scenario.perform step
  (scenario.modify World.settle).snapshot result

def runSteps (scenario : Scenario) : List Step → List Snapshot
  | [] => []
  | step :: rest =>
    let (scenario, snapshot) := scenario.advanceBy step
    snapshot :: runSteps scenario rest

/-- The snapshots of a scenario: one before the first step, then one for each. -/
def run (scenario : Scenario) (steps : List Step) : List Snapshot :=
  let (scenario, first) := (scenario.modify World.settle).snapshot .nothing
  first :: scenario.runSteps steps

end Scenario

end AmqpClient.Simulation
