import AmqpClient.Simulation.World

/-!
# Steps of simulated tasks

One step of a task is one event it meets: an interrupt, the start of a call, its
reply, or the limit of a wait. A task for which there is no step is suspended.
The steps apply the reactions of the client's own parts; only the broker's and
the handler's side is simulated.
-/

set_option autoImplicit false

namespace AmqpClient.Simulation

/-- The outcome of a step: the task as it goes on, if it does, and whether it
looks at its interrupts first. -/
structure Progress where
  world : World
  task? : Option Task
  looks : Bool := false

def Task.continueWith (task : Task) (job : Job) : Task :=
  { task with job, play := none }

def Task.waitFor (task : Task) (play : Play) : Task :=
  { task with play := some play }

namespace World

def recordCall (call : Call) (state? : Option SupervisorState) (world : World) : World :=
  match call with
  | .publish channel message =>
    let (place, world) := world.publicationPlace message.id
    world.record (.publish channel message place)
  | call => world.record (.call call state?)

def isOverdue (world : World) (deadline? : Option Nat) : Bool :=
  deadline?.any (· ≤ world.now)

/-- Starts a call, or looks at it again, or gives it up at its limit. -/
def awaitCall (world : World) (task : Task) (call : Call) (state? : Option SupervisorState)
    (deadline? : Option Nat) (replied : World → Reply → Progress) (expired : World → Progress) :
    Option Progress :=
  match task.play with
  | none =>
    let world := world.recordCall call state?
    if world.broker.refuses call then some (replied world (.error .channel))
    else
      let (broker, play) := world.broker.takeBehaviour world.now (scriptKey call)
      some { world := { world with broker }, task? := some (task.waitFor play) }
  | some play =>
    match world.broker.resumeCall world.now call play with
    | (broker, .returned reply) => some (replied { world with broker } reply)
    | (broker, .changed play) =>
      some { world := { world with broker }, task? := some (task.waitFor play) }
    | (_, .waiting) => if world.isOverdue deadline? then some (expired world) else none

def endTask (world : World) (task : Task) (result : TaskResult) : Progress :=
  { world := world.complete task.label result, task? := none }

def endForeground (world : World) (result : Except ClientError Unit) : Progress :=
  { world := { world with foreground := some result }, task? := none }

end World

def TaskResult.ofUnit : Except ClientError Unit → TaskResult
  | .ok () => .done
  | .error error => .failed error

/-! ## The supervisor and its callers -/

def stepLoop (world : World) (task : Task) (looks : Bool) (plan : Supervisor.Plan)
    (point : Supervisor.Point) : Option Progress :=
  let react (event : Supervisor.Event) (world : World) : Progress :=
    let reaction :=
      Supervisor.react plan world.signals world.now world.cells point event
    let world := { world with cells := reaction.cells }.notify reaction.notices
    match reaction.next with
    | .proceed .closed => { world, task? := none }
    | .proceed point => { world, task? := some (task.continueWith (.loop plan point)) }
    | .await point => { world, task? := some (task.continueWith (.loop plan point)), looks := true }
  match if looks then point.interrupt? world.signals world.cells else none with
  | some event => some (react event world)
  | none =>
    match point.call? plan with
    | some call =>
      world.awaitCall task call (some world.cells.state) point.deadline?
        (fun world reply => react (.replied reply) world) (react .expired)
    | none => if world.isOverdue point.deadline? then some (react .expired world) else none

def World.hasLoop (world : World) : Bool :=
  world.tasks.any fun task => match task.job with | .loop .. => true | _ => false

/-- A step of a shutdown: the flag is raised, then the loop's end is awaited. -/
def stepShutdown (world : World) (task : Task) (isWaiting : Bool) : Option Progress :=
  if isWaiting then
    if world.hasLoop then none else some (world.endTask task .done)
  else
    match world.cells.beginShutdown with
    | .ok cells =>
      some
        { world := { world with cells }, task? := some (task.continueWith (.shutdown true)) }
    | .error error => some (world.endTask task (.failed error))

def stepWaitReady (world : World) (task : Task) (waiter : SessionWaiter)
    (reportsGeneration : Bool) : Option Progress :=
  if waiter.isWoken world.cells then
    match waiter.poll world.signals world.cells with
    | .ok (.ok session) =>
      some (world.endTask task
        (if reportsGeneration then .generation session.generation else .done))
    | .ok (.error error) => some (world.endTask task (.failed error))
    | .error waiter =>
      some { world, task? := some (task.continueWith (.waitReady waiter reportsGeneration)) }
  else none

/-! ## The publisher -/

/-- A step towards a confirmation: its delay begins, or it comes, or the wait for
it is given up at its limit. -/
def World.awaitConfirmation (world : World) (task : Task) (confirmation : Nat)
    (deadline? : Option Nat)
    (confirmed : World → Except ClientError Confirmation → Progress)
    (expired : World → Progress) : Option Progress :=
  match world.broker.pollConfirmation world.now confirmation with
  | (broker, .resolved outcome requestsShutdown) =>
    let world := { world with broker }
    some (confirmed (if requestsShutdown then world.requestShutdown else world) outcome)
  | (broker, .begun) => some { world := { world with broker }, task? := some task }
  | (_, .waiting) => if world.isOverdue deadline? then some (expired world) else none

def stepPush (world : World) (task : Task) (looks : Bool) (plan : Publisher.Plan)
    (point : Publisher.Push.Point) : Option Progress :=
  let react (event : Publisher.Push.Event) (world : World) : Progress :=
    let reaction :=
      Publisher.Push.react plan world.signals world.cells world.now task.id world.claims point event
    let world := { world with claims := reaction.claims }.notify reaction.notices
    match reaction.next with
    | .proceed (.finished result) => world.endTask task (.ofUnit result)
    | .proceed point => { world, task? := some (task.continueWith (.push plan point)) }
    | .await point => { world, task? := some (task.continueWith (.push plan point)), looks := true }
  match if looks then point.interrupt? world.cells world.claims task.id else none with
  | some event => some (react event world)
  | none =>
    match point.call? plan, point.confirmation? with
    | some call, _ =>
      world.awaitCall task call none point.deadline?
        (fun world reply => react (.replied reply) world) (react .expired)
    | none, some confirmation =>
      world.awaitConfirmation task confirmation point.deadline?
        (fun world outcome => react (.confirmed outcome) world) (react .expired)
    | none, none => if world.isOverdue point.deadline? then some (react .expired world) else none

def stepHandOff (world : World) (task : Task) (looks : Bool) (plan : Publisher.Plan)
    (point : Publisher.HandOff.Point) : Option Progress :=
  let react (event : Publisher.HandOff.Event) (world : World) : Progress :=
    let reaction :=
      Publisher.HandOff.react plan world.signals world.cells world.now task.id world.claims point
        event
    let world := { world with claims := reaction.claims }.notify reaction.notices
    match reaction.next with
    | .proceed (.finished (.ok confirmation)) =>
      let kept := { label := task.label.getD "", confirmation, ticket := task.id }
      (world.keep kept).endTask task .pending
    | .proceed (.finished (.error error)) => world.endTask task (.failed error)
    | .proceed point => { world, task? := some (task.continueWith (.handOff plan point)) }
    | .await point =>
      { world, task? := some (task.continueWith (.handOff plan point)), looks := true }
  match if looks then point.interrupt? world.cells world.claims task.id else none with
  | some event => some (react event world)
  | none =>
    match point.call? plan with
    | some call =>
      world.awaitCall task call none point.deadline?
        (fun world reply => react (.replied reply) world) (react .expired)
    | none => if world.isOverdue point.deadline? then some (react .expired world) else none

def stepRefusedPush (world : World) (task : Task) : Option Progress :=
  let notice := Publisher.notSerializable "key must be a string"
  some ((world.notify [notice]).endTask task (.failed .parsePayload))

/-- A step of a wait for a kept confirmation, whose end frees the slot. -/
def stepConfirmWait (world : World) (task : Task) (kept : KeptConfirmation) : Option Progress :=
  world.awaitConfirmation task kept.confirmation none
    (fun world outcome =>
      (world.releaseClaim kept.ticket).endTask task
        (match outcome with
          | .ok confirmation => .confirmation confirmation
          | .error error => .failed error))
    (fun world => { world, task? := some task })

/-! ## The consumer -/

def World.spawnWorkers (owner : Nat) (world : World) : World :=
  let count := (world.consumption owner).pool.workers.length
  (List.range count).foldl (fun world index => world.spawn none (.worker owner index none)) world

def stepConsume (world : World) (task : Task) (looks : Bool) (plan : Consumer.Plan) :
    Option Progress :=
  let consumption := world.consumption task.id
  let react (event : Consumer.Event) (world : World) : Progress :=
    let reaction :=
      Consumer.react plan world.signals world.now world.cells consumption event
    let world := { world with cells := reaction.cells }.notify reaction.notices
    let world := world.setConsumption task.id reaction.consumption
    let world :=
      if consumption.point.opensStream reaction.consumption.point then world.spawnWorkers task.id
      else world
    match reaction.consumption.point with
    | .finished result => world.endTask task (.ofUnit result)
    | _ =>
      { world, task? := some (task.continueWith (.consume plan)), looks := reaction.looks }
  match if looks then consumption.interrupt? world.signals world.cells else none with
  | some event => some (react event world)
  | none =>
    let deadline? := consumption.point.deadline?
    match consumption.point.call? plan with
    | some call =>
      world.awaitCall task call none deadline?
        (fun world reply => react (.replied reply) world) (react .expired)
    | none => if world.isOverdue deadline? then some (react .expired world) else none

def World.beginSettlement (world : World) (tag : Nat) (settlement : Settlement) : World × Play :=
  let world := (world.setSettled tag true).record (.acknowledge tag settlement)
  let (broker, play) := world.broker.takeBehaviour world.now (settlementKey settlement)
  ({ world with broker }, play)

def World.deliveryChannel (world : World) (tag : Nat) : Nat :=
  match world.seen.find? (·.delivery.tag = tag) with
  | some entry => entry.channel
  | none => 0

inductive HandlerStep where
  | waiting
  | running (world : World) (run : HandlerRun)
  | returned (world : World) (result : Except ClientError Unit)

def beginHandler (world : World) (channel : Nat) (delivery : Delivery) : World × HandlerRun :=
  let world := world.notify (extractNotices delivery.headers)
  let world := { world with seen := world.seen ++ [({ channel, delivery } : SeenDelivery)] }
  let world := world.record (.handle delivery (extract delivery.headers))
  let (behaviour, handlers) := world.handlers.take (Text.decodeLossy delivery.data)
  ({ world with handlers }, { behaviour, phase := .delayed (world.now + behaviour.delay) })

def stepHandler (world : World) (tag : Nat) (run : HandlerRun) : HandlerStep :=
  let moveTo (phase : HandlerPhase) (world : World) : HandlerStep :=
    .running world { run with phase }
  match run.phase with
  | .delayed due =>
    if world.now < due || run.behaviour.hangs then .waiting
    else moveTo (.settling run.behaviour.settlements) world
  | .settling [] => moveTo (.leaving (world.now + run.behaviour.after)) world
  | .settling (settlement :: remaining) =>
    match (settle (world.isSettled tag) settlement).1 with
    | .answered =>
      moveTo (.settling remaining) (world.record (.settle tag settlement (.ok ())))
    | .forwarded settlement =>
      let (world, play) := world.beginSettlement tag settlement
      moveTo (.acknowledging settlement play remaining) world
  | .acknowledging settlement play remaining =>
    match world.broker.resumeSettlement world.now (world.deliveryChannel tag) tag settlement play with
    | (_, .waiting) => .waiting
    | (broker, .changed play) =>
      moveTo (.acknowledging settlement play remaining) { world with broker }
    | (broker, .returned result) =>
      moveTo (.settling remaining)
        ({ world with broker }.record (.settle tag settlement result))
  | .leaving due =>
    if world.now < due then .waiting
    else
      let result : Except ClientError Unit :=
        match run.behaviour.error with
        | some error => .error error
        | none => .ok ()
      .returned (world.record (.handled tag result)) result

/-- How a worker breaks down whose stream is asked again after its end. -/
def overrunDetails (task : Task) : String :=
  "task " ++ toString task.id ++ " panicked with message " ++
    "\"Unfold must not be polled after it returned `Poll::Ready(None)`\""

def stepWorker (world : World) (task : Task) (looks : Bool) (owner index : Nat)
    (run? : Option HandlerRun) : Option Progress :=
  let consumption := world.consumption owner
  let pool := consumption.pool
  let react (event : Consumer.WorkerEvent) (world : World) : Progress :=
    let reaction := pool.react index event
    let world := world.setConsumption owner { consumption with pool := reaction.pool }
    let world := (world.notify reaction.notices).finishSpans reaction.span.toList
    if (reaction.pool.worker index).isOver then { world, task? := none }
    else
      { world
        task? := some (task.continueWith (.worker owner index none))
        looks := reaction.next = .await }
  let goOn (world : World) (run : HandlerRun) : Progress :=
    { world, task? := some (task.continueWith (.worker owner index (some run))) }
  match if looks then pool.summons? index else none with
  | some event => some (react event world)
  | none =>
    match pool.worker index with
    | .idle | .finished => none
    | .waiting =>
      if pool.isFirst index then
        match world.broker.nextItem (overrunDetails task) pool.stream with
        | (_, none) => none
        | (broker, some item) => some (react (.item item) { world with broker })
      else none
    | .handling delivery =>
      match run? with
      | none =>
        let channel := world.broker.streamChannel pool.stream
        let (world, run) := beginHandler world channel delivery
        some (goOn world run)
      | some run =>
        match stepHandler world delivery.tag run with
        | .waiting => none
        | .running world run => some (goOn world run)
        | .returned world result =>
          some (react (.handled result (world.isSettled delivery.tag)) world)
    | .returning delivery =>
      let settlement := delivery.automaticSettlement
      match task.play with
      | none =>
        match (settle (world.isSettled delivery.tag) settlement).1 with
        | .answered => some (react (.settled (.ok ())) world)
        | .forwarded settlement =>
          let (world, play) := world.beginSettlement delivery.tag settlement
          some { world, task? := some (task.waitFor play) }
      | some play =>
        match world.broker.resumeSettlement world.now (world.deliveryChannel delivery.tag)
            delivery.tag settlement play with
        | (_, .waiting) => none
        | (broker, .changed play) =>
          some { world := { world with broker }, task? := some (task.waitFor play) }
        | (broker, .returned result) => some (react (.settled result) { world with broker })

/-! ## Foreground work -/

def stepSettle (world : World) (task : Task) (channel tag : Nat) (settlement : Settlement) :
    Option Progress :=
  match task.play with
  | none =>
    match (settle (world.isSettled tag) settlement).1 with
    | .answered => some (world.endForeground (.ok ()))
    | .forwarded settlement =>
      let (world, play) := world.beginSettlement tag settlement
      some { world, task? := some (task.waitFor play) }
  | some play =>
    match world.broker.resumeSettlement world.now channel tag settlement play with
    | (_, .waiting) => none
    | (broker, .changed play) =>
      some { world := { world with broker }, task? := some (task.waitFor play) }
    | (broker, .returned result) => some ({ world with broker }.endForeground result)

def stepInstall (world : World) (task : Task) (topology : Topology) (channel : Nat)
    (progress : Topology.InstallProgress) : Option Progress :=
  match progress with
  | .finished result => some (world.endForeground result)
  | .calling step =>
    world.awaitCall task (step.call topology channel) none none
      (fun world reply =>
        let (progress, notices) := topology.continueInstall step reply
        { world := world.notify notices
          task? := some (task.continueWith (.install topology channel progress)) })
      (fun world => { world, task? := some task })

/-- A step of a task, which looks at its interrupts first if so marked. -/
def step (world : World) (task : Task) (looks : Bool) : Option Progress :=
  match task.job with
  | .loop plan point => stepLoop world task looks plan point
  | .shutdown isWaiting => stepShutdown world task isWaiting
  | .waitReady waiter reportsGeneration => stepWaitReady world task waiter reportsGeneration
  | .push plan point => stepPush world task looks plan point
  | .handOff plan point => stepHandOff world task looks plan point
  | .refusedPush => stepRefusedPush world task
  | .confirmWait kept => stepConfirmWait world task kept
  | .consume plan => stepConsume world task looks plan
  | .worker owner index run? => stepWorker world task looks owner index run?
  | .settle channel tag settlement => stepSettle world task channel tag settlement
  | .install topology channel progress => stepInstall world task topology channel progress

/-! ## Timers -/

def HandlerRun.timer? (run : HandlerRun) : Option Nat :=
  match run.phase with
  | .delayed due => if run.behaviour.hangs then none else some due
  | .acknowledging _ play _ => play.timer?
  | .leaving due => some due
  | .settling _ => none

def timers (world : World) (task : Task) : List Nat :=
  let own : List (Option Nat) :=
    match task.job with
    | .loop _ point => [point.deadline?]
    | .push _ point =>
      [point.deadline?, point.confirmation?.bind world.broker.confirmationTimer?]
    | .handOff _ point => [point.deadline?]
    | .confirmWait kept => [world.broker.confirmationTimer? kept.confirmation]
    | .consume _ => [(world.consumption task.id).point.deadline?]
    | .worker _ _ (some run) => [run.timer?]
    | _ => []
  (task.play.bind Play.timer? :: own).filterMap id

end AmqpClient.Simulation
