import AmqpClient.Simulation.Step

/-!
# The scheduler

Tasks run one at a time, each until it is suspended. A task that another task's
run has made able to go on joins the end of those that are to run; of several,
the one suspended last joins first. Time stands still while anything can run and
moves straight to the next timer when it may; of several tasks whose timers are
due, the one suspended first runs first.
-/

set_option autoImplicit false

namespace AmqpClient.Simulation

def stepLimit : Nat := 1000000

namespace World

def canRun (world : World) (task : Task) : Bool :=
  (step world task true).isSome

/-- Adds the tasks that have become able to go on to those that are to run. -/
def wake (world : World) : World :=
  let woken := world.tasks.reverse.filter fun task =>
    !world.ready.contains task.id && world.canRun task
  { world with ready := world.ready ++ woken.map (·.id) }

def wakeDue (world : World) : World :=
  let woken := world.tasks.filter fun task =>
    !world.ready.contains task.id && world.canRun task
  { world with ready := world.ready ++ woken.map (·.id) }

/-- Moves a task to the end of the list, as the one suspended last. -/
def suspend (task : Task) (world : World) : World :=
  { world with tasks := world.tasks.filter (·.id ≠ task.id) ++ [task] }

def runTask : Nat → World → Task → Bool → World
  | 0, world, _, _ => world
  | fuel + 1, world, task, looks =>
    match step world task looks with
    | none => world.suspend task
    | some progress =>
      match progress.task? with
      | none => progress.world.removeTask task.id
      | some task => runTask fuel (progress.world.putTask task) task progress.looks

def runReady : Nat → World → World
  | 0, world => world
  | fuel + 1, world =>
    let world := world.wake
    match world.ready with
    | [] => world
    | id :: ready =>
      let world := { world with ready }
      match world.task? id with
      | none => runReady fuel world
      | some task => runReady fuel (runTask stepLimit world task true)

def settle (world : World) : World :=
  runReady stepLimit world

def settleAt (time : Nat) (world : World) : World :=
  { world with now := time }.wakeDue.settle

def nextTimer? (world : World) : Option Nat :=
  ((world.tasks.flatMap (timers world)).filter (world.now < ·)).min?

/-- Moves the clock to a time, running whatever happens on the way. -/
def advanceTo : Nat → Nat → World → World
  | 0, _, world => world
  | fuel + 1, target, world =>
    match world.nextTimer? with
    | some time =>
      if time ≤ target then advanceTo fuel target (world.settleAt time)
      else { world with now := target }
    | none => { world with now := target }

def advance (milliseconds : Nat) (world : World) : World :=
  advanceTo stepLimit (world.now + milliseconds) world

/-- Runs, letting time pass, until something is the case. Nothing is left to wait
for if no timer is set. -/
def runUntil (isDone : World → Bool) : Nat → World → World
  | 0, world => world
  | fuel + 1, world =>
    let world := world.settle
    if isDone world then world
    else
      match world.nextTimer? with
      | some time => runUntil isDone fuel (world.settleAt time)
      | none => world

def await (job : Job) (world : World) : World × Except ClientError Unit :=
  let world :=
    runUntil (·.foreground.isSome) stepLimit ({ world with foreground := none }.spawn none job)
  (world, world.foreground.getD (.error .internal))

def report? (label : String) (world : World) : Option TaskResult :=
  (world.completions.find? (·.label = label)).map (·.result)

def awaitReport (label : String) (job : Job) (world : World) : World × Option TaskResult :=
  let world := { world with completions := world.completions.filter (·.label ≠ label) }
  let world := runUntil (fun world => (world.report? label).isSome) stepLimit
    (world.spawn (some label) job)
  (world, world.report? label)

def runAlone (label : String) (job : Job) (world : World) : World × Option TaskResult :=
  let world := { world with completions := world.completions.filter (·.label ≠ label) }
  let spawned := world.spawn (some label) job
  let world :=
    match spawned.task? spawned.taskCount with
    | some task =>
      runTask stepLimit { spawned with ready := spawned.ready.filter (· ≠ task.id) } task true
    | none => spawned
  (world, world.report? label)

end World

end AmqpClient.Simulation
