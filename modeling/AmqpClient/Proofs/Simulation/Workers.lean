import AmqpClient.Proofs.Simulation.Consumers

/-!
# Simulated workers make acts of a shift

Whatever a simulated worker does in one step, a worker of a shift can do as well. The
workers beside it stay where they are, and so does the consumer whose pool it is.
-/

set_option autoImplicit false

namespace AmqpClient.Simulation

open Consumer (Plan Run Shift Consumption WorkerPoint WorkerEvent)

/-! ## What handlers and settlements leave alone -/

private theorem World.record_shares (event : LogEvent) (world : World) :
    (world.record event).SharesWith world :=
  ⟨rfl, rfl, rfl, rfl, rfl⟩

theorem World.beginSettlement_shares (tag : Nat) (settlement : Settlement) (world : World) :
    (world.beginSettlement tag settlement).1.SharesWith world :=
  ⟨rfl, rfl, rfl, rfl, rfl⟩

theorem beginHandler_shares (channel : Nat) (delivery : Delivery) (world : World) :
    (beginHandler world channel delivery).1.SharesWith world :=
  ⟨rfl, rfl, rfl, rfl, rfl⟩

/-- The world that a handler leaves, if it does anything. -/
def HandlerStep.world? : HandlerStep → Option World
  | .waiting => none
  | .running world _ | .returned world _ => some world

theorem stepHandler_shares {world after : World} {tag : Nat} {run : HandlerRun}
    (left : (stepHandler world tag run).world? = some after) : after.SharesWith world := by
  unfold stepHandler at left
  dsimp only at left
  split at left
  · split at left
    · cases left
    · cases left
      exact .refl world
  · cases left
    exact .refl world
  · split at left
    · cases left
      exact World.record_shares _ world
    · cases left
      exact World.beginSettlement_shares tag _ world
  · split at left
    · cases left
    · cases left
      exact ⟨rfl, rfl, rfl, rfl, rfl⟩
    · cases left
      exact ⟨rfl, rfl, rfl, rfl, rfl⟩
  · split at left
    · cases left
    · cases left
      exact World.record_shares _ world

/-! ## Where a worker stands -/

/-- Whether a worker waits for its handler, or for the broker. -/
def hasCalled (task : Task) (run? : Option HandlerRun) : WorkerPoint → Bool
  | .handling _ => run?.isSome
  | .returning _ => task.play.isSome
  | .idle | .waiting | .finished => false

private theorem hasCalled_continueWith (task : Task) (job : Job) (point : WorkerPoint) :
    hasCalled (task.continueWith job) none point = false := by
  cases point <;> rfl

/-- A worker of a shift stands where a simulated worker is suspended. -/
structure Serves (owner index : Nat) (run? : Option HandlerRun) (world : World) (task : Task)
    (looks : Bool) (shift : Shift) : Prop where
  job : task.job = .worker owner index run?
  pool : shift.pool = (world.consumption owner).pool
  awaits : (shift.hands index).looks = looks
  isCalling : (shift.hands index).isCalling = hasCalled task run? (shift.pool.worker index)

/-- All workers but one stand where they stood. -/
def Beside (index : Nat) (before after : Shift) : Prop :=
  ∀ other, other ≠ index →
    after.hands other = before.hands other ∧ after.pool.worker other = before.pool.worker other

theorem Beside.refl (index : Nat) (shift : Shift) : Beside index shift shift :=
  fun _ _ => ⟨rfl, rfl⟩

theorem Beside.trans {index : Nat} {first second third : Shift} (early : Beside index first second)
    (late : Beside index second third) : Beside index first third :=
  fun other apart =>
    ⟨(late other apart).1.trans (early other apart).1,
      (late other apart).2.trans (early other apart).2⟩

/-- One worker has got ready for an event, and the pool is as it was. -/
structure Prepares (index : Nat) (shift ready : Shift) : Prop where
  acts : Relation.ReflTransGen Shift.Act shift ready
  beside : Beside index shift ready
  pool : ready.pool = shift.pool

/-- One worker of a shift has come to where a simulated worker has come, or both have ended.
Nothing but the pool has changed. -/
structure ServingArrives (owner index ticket : Nat) (world : World) (progress : Progress)
    (shift after : Shift) : Prop where
  acts : Relation.ReflTransGen Shift.Act shift after
  beside : Beside index shift after
  now : progress.world.now = world.now
  cells : progress.world.cells = world.cells
  consumption :
    progress.world.consumption owner = { world.consumption owner with pool := after.pool }
  stands :
    match progress.task? with
    | none => (after.pool.worker index).isOver = true
    | some task =>
      task.id = ticket ∧
        ∃ run?, Serves owner index run? progress.world task progress.looks after

section

variable {owner index : Nat} {run? : Option HandlerRun} {world : World} {task : Task}
  {looks : Bool} {shift : Shift} {progress : Progress}

private theorem setLooks_beside (looks : Bool) : Beside index shift (shift.setLooks looks index) :=
  fun _ apart => ⟨Function.update_of_ne apart .., rfl⟩

private theorem call_beside : Beside index shift (shift.call index) :=
  fun _ apart => ⟨Function.update_of_ne apart .., rfl⟩

private theorem meet_beside {event : WorkerEvent}
    (meets : Consumer.Meets (shift.pool.worker index) event) :
    Beside index shift (shift.meet index event) :=
  fun other apart =>
    ⟨Shift.hands_meet_ne apart, (Consumer.Pool.react_moves meets).sharesWith.worker other apart⟩

def workerReaction (world : World) (task : Task) (owner index : Nat) (consumption : Consumption)
    (event : WorkerEvent) : Progress :=
  let reaction := consumption.pool.react index event
  let world := world.setConsumption owner { consumption with pool := reaction.pool }
  let world := (world.notify reaction.notices).finishSpans reaction.span.toList
  if (reaction.pool.worker index).isOver then { world, task? := none }
  else
    { world
      task? := some (task.continueWith (.worker owner index none))
      looks := reaction.next = .await }

def workOn (world : World) (task : Task) (owner index : Nat) (run : HandlerRun) : Progress :=
  { world, task? := some (task.continueWith (.worker owner index (some run))) }

/-- A step of a worker that is handling a delivery, unless it is cut off. -/
def handleOn (world : World) (task : Task) (owner index : Nat) (delivery : Delivery)
    (run? : Option HandlerRun) : Option Progress :=
  let consumption := world.consumption owner
  match run? with
  | none =>
    let channel := world.broker.streamChannel consumption.pool.stream
    let (world, run) := beginHandler world channel delivery
    some (workOn world task owner index run)
  | some run =>
    match stepHandler world delivery.tag run with
    | .waiting => none
    | .running world run => some (workOn world task owner index run)
    | .returned world result =>
      some (workerReaction world task owner index consumption
        (.handled result (world.isSettled delivery.tag)))

/-- A step of a worker that gives a delivery back, unless it is cut off. -/
def giveBackOn (world : World) (task : Task) (owner index : Nat) (delivery : Delivery) :
    Option Progress :=
  let consumption := world.consumption owner
  let settlement := delivery.automaticSettlement
  match task.play with
  | none =>
    match (settle (world.isSettled delivery.tag) settlement).1 with
    | .answered => some (workerReaction world task owner index consumption (.settled (.ok ())))
    | .forwarded settlement =>
      let (world, play) := world.beginSettlement delivery.tag settlement
      some { world, task? := some (task.waitFor play) }
  | some play =>
    match world.broker.resumeSettlement world.now (world.deliveryChannel delivery.tag)
        delivery.tag settlement play with
    | (_, .waiting) => none
    | (broker, .changed play) =>
      some { world := { world with broker }, task? := some (task.waitFor play) }
    | (broker, .returned result) =>
      some (workerReaction { world with broker } task owner index consumption (.settled result))

theorem stepWorker_eq (world : World) (task : Task) (looks : Bool) (owner index : Nat)
    (run? : Option HandlerRun) :
    stepWorker world task looks owner index run? =
      let consumption := world.consumption owner
      let pool := consumption.pool
      match if looks then pool.summons? index else none with
      | some event => some (workerReaction world task owner index consumption event)
      | none =>
        match pool.worker index with
        | .idle | .finished => none
        | .waiting =>
          if pool.isFirst index then
            match world.broker.nextItem (overrunDetails task) pool.stream with
            | (_, none) => none
            | (broker, some item) =>
              some (workerReaction { world with broker } task owner index consumption (.item item))
          else none
        | .handling delivery => handleOn world task owner index delivery run?
        | .returning delivery => giveBackOn world task owner index delivery :=
  rfl

/-- Both meet an event in the same way. -/
theorem meet_arrives {ready : Shift} {after : World} {event : WorkerEvent}
    (serves : Serves owner index run? world task looks shift)
    (prepares : Prepares index shift ready) (shares : after.SharesWith world)
    (act : Shift.Act ready (ready.meet index event))
    (meets : Consumer.Meets (ready.pool.worker index) event) :
    ∃ next, ServingArrives owner index task.id world
      (workerReaction after task owner index (world.consumption owner) event) shift next := by
  have acts := prepares.acts.tail act
  have beside := prepares.beside.trans (meet_beside meets)
  have hand : (ready.meet index event).hands index = _ := Shift.hands_meet_self
  have pool : (ready.meet index event).pool = (ready.pool.react index event).pool := rfl
  rw [prepares.pool, serves.pool] at hand pool
  generalize ready.meet index event = met at *
  unfold workerReaction
  dsimp only
  generalize (world.consumption owner).pool.react index event = reaction at *
  rw [← pool]
  have placed :=
    World.consumption_setConsumption owner { world.consumption owner with pool := met.pool } after
  split
  · next gone => exact ⟨met, acts, beside, shares.now, shares.cells, placed, gone⟩
  · refine ⟨met, acts, beside, shares.now, shares.cells, placed, rfl, none, rfl, ?_, ?_, ?_⟩
    · exact (congrArg (·.pool) placed).symm
    · rw [hand]
    · rw [hand, hasCalled_continueWith]

/-- A worker that goes on waiting for what it has called stays where it is. -/
theorem stay_arrives {ready : Shift} {after : World} {next : Task} {nextRun? : Option HandlerRun}
    (serves : Serves owner index run? world task looks shift)
    (prepares : Prepares index shift ready) (shares : after.SharesWith world)
    (overlooked : (ready.hands index).looks = false) (job : next.job = .worker owner index nextRun?)
    (isCalling : (ready.hands index).isCalling =
      hasCalled next nextRun? (shift.pool.worker index))
    (same : next.id = task.id) :
    ServingArrives owner index task.id world { world := after, task? := some next } shift
      ready := by
  have consumption := shares.consumption owner
  refine ⟨prepares.acts, prepares.beside, shares.now, shares.cells, ?_, same, nextRun?, job, ?_,
    overlooked, ?_⟩
  · rw [consumption, prepares.pool, serves.pool]
  · rw [consumption, prepares.pool, serves.pool]
  · rw [prepares.pool]
    exact isCalling

private theorem exists_turned_of_quiet (serves : Serves owner index run? world task looks shift)
    (quiet : looks = true → shift.pool.interrupt? index = none) :
    ∃ turned, Prepares index shift turned ∧ (turned.hands index).looks = false := by
  cases looks with
  | false => exact ⟨shift, ⟨.refl, .refl index shift, rfl⟩, serves.awaits⟩
  | true =>
      have overlooks : Shift.Act shift (shift.setLooks false index) :=
        .work (.overlook serves.awaits (quiet rfl))
      exact ⟨shift.setLooks false index, ⟨.single overlooks, setLooks_beside false, rfl⟩,
        Shift.looks_setLooks false⟩

private theorem exists_called_of_quiet (serves : Serves owner index run? world task looks shift)
    {delivery : Delivery} (had : (shift.pool.worker index).delivery? = some delivery)
    (quiet : looks = true → shift.pool.interrupt? index = none) :
    ∃ called, Prepares index shift called ∧ (called.hands index).looks = false ∧
      (called.hands index).isCalling = true := by
  obtain ⟨turned, ⟨acts, beside, pool⟩, looks⟩ := exists_turned_of_quiet serves quiet
  cases isCalling : (turned.hands index).isCalling with
  | true => exact ⟨turned, ⟨acts, beside, pool⟩, looks, isCalling⟩
  | false =>
      rw [← pool] at had
      have calls : Shift.Act turned (turned.call index) := .work (.call looks isCalling had)
      refine ⟨turned.call index, ⟨acts.tail calls, beside.trans call_beside, pool⟩, ?_,
        Shift.hands_call_self⟩
      simpa [Shift.call] using looks

private theorem quiet_of_summons? {pool : Consumer.Pool} (nothing : pool.summons? index = none) :
    pool.interrupt? index = none := by
  unfold Consumer.Pool.summons? at nothing
  split at nothing
  · split at nothing
    · next gone =>
      unfold Consumer.Pool.interrupt?
      rw [WorkerPoint.eq_finished gone]
    · cases nothing
  · exact nothing

private theorem exists_act_of_summons? {event : WorkerEvent} (orderly : shift.IsOrderly)
    (looks : (shift.hands index).looks = true) (found : shift.pool.summons? index = some event) :
    Shift.Act shift (shift.meet index event) ∧
      Consumer.Meets (shift.pool.worker index) event := by
  unfold Consumer.Pool.summons? at found
  split at found
  · next cancelled =>
    split at found
    · cases found
    · next alive =>
      cases found
      rw [Bool.not_eq_true] at alive
      exact ⟨.abort cancelled (orderly.rested index looks) alive, .abort alive⟩
  · exact ⟨.work (.look looks found), (Consumer.Pool.meets_of_interrupt? found).1⟩

private theorem exists_arrives_of_handleOn {delivery : Delivery}
    (serves : Serves owner index run? world task looks shift)
    (point : shift.pool.worker index = .handling delivery)
    (quiet : looks = true → shift.pool.interrupt? index = none)
    (taken : handleOn world task owner index delivery run? = some progress) :
    ∃ after, ServingArrives owner index task.id world progress shift after := by
  have had : (shift.pool.worker index).delivery? = some delivery := by rw [point]; rfl
  obtain ⟨called, prepares, looks, isCalling⟩ := exists_called_of_quiet serves had quiet
  have goesOn {after : World} (run : HandlerRun) (shares : after.SharesWith world) :
      ServingArrives owner index task.id world (workOn after task owner index run) shift
        called := by
    refine stay_arrives serves prepares shares looks rfl ?_ rfl
    rw [isCalling, point]
    rfl
  unfold handleOn at taken
  dsimp only at taken
  split at taken
  · cases taken
    exact ⟨called, goesOn _ (beginHandler_shares _ delivery world)⟩
  · split at taken
    · cases taken
    · next after run stepped =>
      cases taken
      exact ⟨called, goesOn run (stepHandler_shares (by rw [stepped]; rfl))⟩
    · next after result stepped =>
      cases taken
      have answers : Consumer.Answers (called.pool.worker index)
          (.handled result (after.isSettled delivery.tag)) := by
        rw [prepares.pool, point]
        exact .handled result _
      exact meet_arrives serves prepares (stepHandler_shares (by rw [stepped]; rfl))
        (.work (.hear looks isCalling answers)) (.answer answers)

private theorem exists_arrives_of_giveBackOn {delivery : Delivery}
    (serves : Serves owner index run? world task looks shift)
    (point : shift.pool.worker index = .returning delivery)
    (quiet : looks = true → shift.pool.interrupt? index = none)
    (taken : giveBackOn world task owner index delivery = some progress) :
    ∃ after, ServingArrives owner index task.id world progress shift after := by
  have had : (shift.pool.worker index).delivery? = some delivery := by rw [point]; rfl
  obtain ⟨called, prepares, looks, isCalling⟩ := exists_called_of_quiet serves had quiet
  have waits {after : World} (play : Play) (shares : after.SharesWith world) :
      ServingArrives owner index task.id world
        { world := after, task? := some (task.waitFor play) } shift called := by
    refine stay_arrives serves prepares shares looks serves.job ?_ rfl
    rw [isCalling, point]
    rfl
  have answers (result : Except ClientError Unit) :
      Consumer.Answers (called.pool.worker index) (.settled result) := by
    rw [prepares.pool, point]
    exact .settled result
  have hears (result : Except ClientError Unit) :
      Shift.Act called (called.meet index (.settled result)) :=
    .work (.hear looks isCalling (answers result))
  unfold giveBackOn at taken
  dsimp only at taken
  split at taken
  · split at taken
    · cases taken
      exact meet_arrives serves prepares (.refl world) (hears _) (.answer (answers _))
    · cases taken
      exact ⟨called, waits _ (World.beginSettlement_shares _ _ world)⟩
  · split at taken
    · cases taken
    · cases taken
      exact ⟨called, waits _ ⟨rfl, rfl, rfl, rfl, rfl⟩⟩
    · cases taken
      exact meet_arrives serves prepares ⟨rfl, rfl, rfl, rfl, rfl⟩ (hears _) (.answer (answers _))

/-- A worker of a shift can make the step that a simulated worker makes. -/
theorem exists_arrives_of_stepWorker (serves : Serves owner index run? world task looks shift)
    (orderly : shift.IsOrderly)
    (taken : stepWorker world task looks owner index run? = some progress) :
    ∃ after, ServingArrives owner index task.id world progress shift after := by
  rw [stepWorker_eq] at taken
  dsimp only at taken
  rw [← serves.pool] at taken
  cases found : if looks then shift.pool.summons? index else none with
  | some event =>
      rw [found] at taken
      cases taken
      rw [Option.ite_none_right_eq_some] at found
      obtain ⟨act, meets⟩ :=
        exists_act_of_summons? orderly (serves.awaits.trans found.1) found.2
      exact meet_arrives serves ⟨.refl, .refl index shift, rfl⟩ (.refl world) act meets
  | none =>
      rw [found] at taken
      dsimp only at taken
      have quiet (looking : looks = true) : shift.pool.interrupt? index = none :=
        quiet_of_summons? (by simpa [looking] using found)
      cases point : shift.pool.worker index with
      | idle | finished =>
          rw [point] at taken
          cases taken
      | waiting =>
          obtain ⟨turned, prepares, looks⟩ := exists_turned_of_quiet serves quiet
          rw [point] at taken
          dsimp only at taken
          split at taken
          · next first =>
            split at taken
            · cases taken
            · next broker item _ =>
              cases taken
              rw [← prepares.pool] at first point
              exact meet_arrives serves prepares ⟨rfl, rfl, rfl, rfl, rfl⟩
                (.work (.ask item looks point first)) (point ▸ .item item)
          · cases taken
      | handling delivery =>
          rw [point] at taken
          exact exists_arrives_of_handleOn serves point quiet taken
      | returning delivery =>
          rw [point] at taken
          exact exists_arrives_of_giveBackOn serves point quiet taken

/-- A worker that is suspended can be polled anew in the shift as well. -/
theorem Serves.exists_poll_of_suspended
    (serves : Serves owner index run? world task false shift)
    (suspended : stepWorker world task false owner index run? = none) :
    ∃ after, Shift.Act shift after ∧ Serves owner index run? world task true after ∧
      Beside index shift after := by
  have waits : shift.IsWaiting index := by
    rw [Shift.IsWaiting, serves.isCalling]
    rw [stepWorker_eq] at suspended
    dsimp only at suspended
    rw [← serves.pool] at suspended
    cases point : shift.pool.worker index with
    | idle | waiting | finished => rfl
    | handling delivery =>
        rw [point] at suspended
        cases run? with
        | none => cases suspended
        | some run => rfl
    | returning delivery =>
        rw [point] at suspended
        change giveBackOn world task owner index delivery = none at suspended
        change task.play.isSome = true
        unfold giveBackOn at suspended
        cases playing : task.play with
        | none =>
            rw [playing] at suspended
            dsimp only at suspended
            split at suspended <;> cases suspended
        | some play => rfl
  refine ⟨_, .poll waits, ⟨serves.job, serves.pool, ?_, ?_⟩, setLooks_beside true⟩
  · exact Shift.looks_setLooks true
  · exact (Shift.isCalling_setLooks true).trans serves.isCalling

private theorem mem_foldl_spawn (owner : Nat) (indices : List Nat) (world : World) :
    let spawned :=
      indices.foldl (fun world index => world.spawn none (.worker owner index none)) world
    (∀ task ∈ world.tasks, task ∈ spawned.tasks) ∧
      ∀ index ∈ indices, ∃ task ∈ spawned.tasks,
        task.job = .worker owner index none ∧ task.play = none := by
  induction indices generalizing world with
  | nil => exact ⟨fun _ member => member, nofun⟩
  | cons first rest ih =>
      obtain ⟨keeps, adds⟩ := ih (world.spawn none (.worker owner first none))
      refine ⟨fun task member => keeps task (List.mem_append_left _ member), fun index member => ?_⟩
      rcases List.mem_cons.mp member with rfl | member
      · exact ⟨_, keeps _ (List.mem_append_right _ List.mem_cons_self), rfl, rfl⟩
      · exact adds index member

/-- The workers that are spawned stand where those of a new shift start. -/
theorem exists_serves_of_spawnWorkers
    (inside : index < (world.consumption owner).pool.workers.length) :
    ∃ task ∈ (world.spawnWorkers owner).tasks,
      Serves owner index none (world.spawnWorkers owner) task true
        { pool := (world.consumption owner).pool } := by
  obtain ⟨task, member, job, idle⟩ :=
    (mem_foldl_spawn owner (List.range (world.consumption owner).pool.workers.length)
      world).2 index (List.mem_range.mpr inside)
  refine ⟨task, member, job, ?_, rfl, ?_⟩
  · rw [(World.spawnWorkers_shares owner world).consumption]
  · unfold hasCalled
    rw [idle]
    split <;> rfl

/-! ## Workers and their consumer together -/

/-- What a worker does is nothing to another. -/
theorem Serves.beside {other : Nat} {after : World} {standing : Shift}
    (serves : Serves owner other run? world task looks shift) (apart : other ≠ index)
    (beside : Beside index shift standing)
    (placed : after.consumption owner = { world.consumption owner with pool := standing.pool }) :
    Serves owner other run? after task looks standing := by
  obtain ⟨hands, worker⟩ := beside other apart
  refine ⟨serves.job, ?_, ?_, ?_⟩
  · rw [placed]
  · rw [hands]
    exact serves.awaits
  · rw [hands, worker]
    exact serves.isCalling

private theorem steps_of_acts {plan : Plan} {run : Run} {after : Shift}
    (acts : Relation.ReflTransGen Shift.Act run.shift after) :
    Consumer.Steps plan run { run with shift := after } := by
  induction acts with
  | refl => exact .refl
  | tail _ act ih => exact ih.tail (.act act)

/-- A worker's step is one of the run, and a consumer that is suspended stays where it is. -/
theorem exists_steps_of_stepWorker {plan : Plan} {run : Run} {consumer : Task} {looking : Bool}
    (tends : Tends plan world consumer looking run) (orderly : run.shift.IsOrderly)
    (serves : Serves consumer.id index run? world task looks run.shift)
    (taken : stepWorker world task looks consumer.id index run? = some progress) :
    ∃ after, Consumer.Steps plan run after ∧
      Tends plan progress.world consumer looking after ∧
      ServingArrives consumer.id index task.id world progress run.shift after.shift := by
  obtain ⟨shift, arrives⟩ := exists_arrives_of_stepWorker serves orderly taken
  refine ⟨{ run with shift }, steps_of_acts arrives.acts, ⟨tends.job, tends.playing, ?_,
    tends.awaits, tends.isCalling, tends.goesOn⟩, arrives⟩
  refine ⟨tends.reflects.now.trans arrives.now.symm,
    tends.reflects.cells.trans arrives.cells.symm, ?_⟩
  rw [arrives.consumption, ← tends.reflects.consumption]
  rfl

end

end AmqpClient.Simulation
