import AmqpClient.Simulation.Scenario

/-!
# Single parts under simulation

One delivery with a broker that settles it, one channel on which a topology is
installed several times, and one client that is closed before its loop has run.
-/

set_option autoImplicit false

namespace AmqpClient.Simulation

def deliveryWorld (delivery : Delivery) (scripts : Scripts) : World :=
  { broker :=
      { scripts
        acceptsAnyTag := true
        connections := [{ id := 1 }]
        channels := [{ id := 1, connection := 1 }] }
    seen := [{ channel := 1, delivery }] }

/-- A world with one delivery that the broker lets settle once, or not at all if
that has happened. -/
def heldDeliveryWorld (delivery : Delivery) (isUsed : Bool) : World :=
  let broker : Broker :=
    { connections := [{ id := 1 }]
      channels := [{ id := 1, connection := 1 }]
      unsettled := if isUsed then [] else [{ channel := 1, delivery }] }
  { broker, seen := [{ channel := 1, delivery }] }

def World.takeLog (world : World) : World × List LogEntry :=
  ({ world with log := [] }, sortLog world.log.reverse)

def World.settleDelivery (tag : Nat) (settlement : Settlement) (world : World) :
    World × Except ClientError Unit :=
  world.await (.settle 1 tag settlement)

/-- Installs a topology several times on the same channel of one broker; each
result comes with the calls it took. -/
def installRuns (topology : Topology) : Nat → World → List (Except ClientError Unit × List LogEntry)
  | 0, _ => []
  | count + 1, world =>
    let (world, result) := world.await (.install topology 1 topology.beginInstall)
    let (world, log) := world.takeLog
    (result, log) :: installRuns topology count world

def channelWorld (queues exchanges : List String) (scripts : Scripts) : World :=
  { broker :=
      { queues
        exchanges
        scripts
        connections := [{ id := 1 }]
        channels := [{ id := 1, connection := 1 }] } }

/-- What a client shows that is closed before its loop has run. -/
structure EarlyClose where
  plan : Supervisor.Plan
  /-- What it shows before anything is asked of it. -/
  before : Visible
  restart : Except ClientError Unit
  /-- A push and a push of a value, on a producer. -/
  pushes : List (Option TaskResult)
  closes : List (Option TaskResult)
  state : SupervisorState
  /-- A push and a wait for a session on a producer, a consumer's run otherwise. -/
  afterwards : List (Option TaskResult)

namespace Scenario

def foregroundLabel : String := "foreground"

def pushAlone (content : PushContent) (scenario : Scenario) : Scenario × Option TaskResult :=
  let (scenario, job) := scenario.pushJob content 0 []
  let (world, result) := scenario.world.runAlone foregroundLabel job
  ({ scenario with world }, result)

def awaitJob (job : Job) (scenario : Scenario) : Scenario × Option TaskResult :=
  let (world, result) := scenario.world.awaitReport foregroundLabel job
  ({ scenario with world }, result)

/-- Uses a client before its loop has run, closes it, and uses it again. -/
def closeEarly (scenario : Scenario) : EarlyClose :=
  let isProducer := decide (scenario.kind = .producer)
  let before := scenario.visible
  let restart := scenario.world.cells.start.map fun _ => ()
  let (scenario, pushes) :=
    if isProducer then
      let (scenario, first) := scenario.pushAlone (.raw [])
      let (scenario, second) := scenario.pushAlone (.json .null)
      (scenario, [first, second])
    else (scenario, [])
  let (scenario, first) := scenario.awaitJob (.shutdown false)
  let (scenario, second) := scenario.awaitJob (.shutdown false)
  let state := scenario.world.cells.state
  let afterwards :=
    if isProducer then
      let (scenario, job) := scenario.pushJob (.raw []) 0 []
      let (scenario, pushed) := scenario.awaitJob job
      [pushed, (scenario.awaitJob (.waitReady { after := 0 } false)).2]
    else [(scenario.awaitJob (scenario.consumeJob scenario.workers)).2]
  { plan := scenario.plan, before, restart, pushes, closes := [first, second], state, afterwards }

end Scenario

end AmqpClient.Simulation
