import AmqpClient.Consumer.Dispatch
import AmqpClient.Publisher.HandOff
import AmqpClient.Publisher.Push
import AmqpClient.Simulation.Broker
import AmqpClient.Simulation.Log
import AmqpClient.Supervisor.Lifecycle
import AmqpClient.Supervisor.Loop

/-!
# Simulated worlds

One client with its broker in virtual time: the shared cells, the broker, the
tasks and where each is suspended, and the records of what has happened.
-/

set_option autoImplicit false

namespace AmqpClient.Simulation

inductive HandlerPhase where
  /-- It acts again at this time, or never if it hangs. -/
  | delayed (due : Nat)
  | settling (remaining : List Settlement)
  | acknowledging (settlement : Settlement) (play : Play) (remaining : List Settlement)
  | leaving (due : Nat)
  deriving Inhabited

structure HandlerRun where
  behaviour : HandlerBehaviour
  phase : HandlerPhase
  deriving Inhabited

/-- A confirmation that its caller keeps, with the claim that belongs to it. -/
structure KeptConfirmation where
  label : String
  confirmation : Nat
  ticket : Nat
  deriving DecidableEq, Repr, Inhabited

/-- What a task does and where it is suspended. -/
inductive Job where
  | loop (plan : Supervisor.Plan) (point : Supervisor.Point)
  /-- A shutdown, which may wait for the loop's end. -/
  | shutdown (isWaiting : Bool)
  /-- A wait for a session, whose generation may be of no interest. -/
  | waitReady (waiter : SessionWaiter) (reportsGeneration : Bool)
  | push (plan : Publisher.Plan) (point : Publisher.Push.Point)
  | handOff (plan : Publisher.Plan) (point : Publisher.HandOff.Point)
  | refusedPush
  | confirmWait (kept : KeptConfirmation)
  /-- A consumer; its state is in the world, under the task's number. -/
  | consume (plan : Consumer.Plan)
  /-- A worker of a consumer's pool, with the handler's run if there is one. -/
  | worker (owner index : Nat) (run? : Option HandlerRun)
  | settle (channel tag : Nat) (settlement : Settlement)
  | install (topology : Topology) (channel : Nat) (progress : Topology.InstallProgress)
  deriving Inhabited

/-- A task: its number, the label under which its end is reported, what it does,
and the call it waits for. -/
structure Task where
  id : Nat
  label : Option String := none
  job : Job
  play : Option Play := none
  deriving Inhabited

/-- A delivery that a handler has been given. -/
structure SeenDelivery where
  channel : Nat
  delivery : Delivery
  isSettled : Bool := false
  deriving Inhabited

structure World where
  now : Nat := 0
  cells : SupervisorCells := {}
  claims : Claims := []
  broker : Broker := {}
  handlers : HandlerScript := {}
  /-- The tasks that have not ended, the one suspended last at the end. -/
  tasks : List Task := []
  taskCount : Nat := 0
  ready : List Nat := []
  /-- The state of each consumer, by the number of its task. -/
  consumptions : List (Nat × Consumer.Consumption) := []
  seen : List SeenDelivery := []
  kept : List KeptConfirmation := []
  /-- Message identities in the order of first publication. -/
  published : List MessageId := []
  messageCount : Nat := 0
  /-- The result of the task that was last run in the foreground. -/
  foreground : Option (Except ClientError Unit) := none
  /-- Everything recorded since it was last taken, latest first. -/
  log : List LogEntry := []
  completions : List Completion := []
  notices : List TimedNotice := []
  spans : List TimedSpan := []
  deriving Inhabited

namespace World

def signals (world : World) : Signals :=
  world.broker.signals

def record (event : LogEvent) (world : World) : World :=
  { world with log := { time := world.now, event } :: world.log }

def notify (notices : List Notice) (world : World) : World :=
  { world with
    notices :=
      (notices.map fun notice => { time := world.now, notice }).reverse ++ world.notices }

def finishSpans (spans : List Consumer.Span) (world : World) : World :=
  { world with
    spans :=
      (spans.map fun span =>
        { time := world.now, span, parent := extract span.headers }).reverse ++ world.spans }

def complete (label? : Option String) (result : TaskResult) (world : World) : World :=
  match label? with
  | some label =>
    { world with completions := { time := world.now, label, result } :: world.completions }
  | none => world

def task? (world : World) (id : Nat) : Option Task :=
  world.tasks.find? (·.id = id)

def spawn (label : Option String) (job : Job) (world : World) : World :=
  let id := world.taskCount + 1
  { world with
    taskCount := id
    tasks := world.tasks ++ [{ id, label, job }]
    ready := world.ready ++ [id] }

def putTask (task : Task) (world : World) : World :=
  { world with tasks := world.tasks.map fun other => if other.id = task.id then task else other }

def removeTask (id : Nat) (world : World) : World :=
  { world with
    tasks := world.tasks.filter (·.id ≠ id)
    ready := world.ready.filter (· ≠ id) }

def consumption (world : World) (owner : Nat) : Consumer.Consumption :=
  match world.consumptions.find? (·.1 = owner) with
  | some entry => entry.2
  | none => {}

def setConsumption (owner : Nat) (consumption : Consumer.Consumption) (world : World) : World :=
  { world with
    consumptions :=
      (owner, consumption) :: world.consumptions.filter (·.1 ≠ owner) }

def isSettled (world : World) (tag : Nat) : Bool :=
  world.seen.any fun entry => entry.delivery.tag = tag && entry.isSettled

def setSettled (tag : Nat) (isSettled : Bool) (world : World) : World :=
  { world with
    seen := world.seen.map fun entry =>
      if entry.delivery.tag = tag then { entry with isSettled } else entry }

def requestShutdown (world : World) : World :=
  match world.cells.beginShutdown with
  | .ok cells => { world with cells }
  | .error _ => world

def releaseClaim (ticket : Nat) (world : World) : World :=
  { world with claims := world.claims.release ticket }

/-- Keeps a confirmation, in place of an older one of the same label. -/
def keep (kept : KeptConfirmation) (world : World) : World :=
  let older := world.kept.filter (·.label = kept.label)
  let world := older.foldl (fun world entry => world.releaseClaim entry.ticket) world
  { world with kept := world.kept.filter (·.label ≠ kept.label) ++ [kept] }

/-- The place of a message identity in the order of first publication. -/
def publicationPlace (id : MessageId) (world : World) : Nat × World :=
  match world.published.findIdx? (· = id) with
  | some index => (index + 1, world)
  | none => (world.published.length + 1, { world with published := world.published ++ [id] })

end World

end AmqpClient.Simulation
