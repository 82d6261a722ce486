import AmqpClient.Proofs.Consumer.Run
import AmqpClient.Proofs.Simulation.Replies

/-!
# Simulated consumers make runs

Whatever a simulated consumer does in one step, a run can do as well, and both come to the
same place. So what holds of all runs holds of the consumers that are executed.
-/

set_option autoImplicit false

namespace AmqpClient.Simulation

open Consumer (Plan Run Consumption)

namespace World

theorem SharesWith.trans {first second third : World} (later : third.SharesWith second)
    (earlier : second.SharesWith first) : third.SharesWith first :=
  ⟨later.now.trans earlier.now, later.cells.trans earlier.cells,
    later.claims.trans earlier.claims, later.kept.trans earlier.kept,
    later.consumptions.trans earlier.consumptions⟩

theorem SharesWith.consumption {after before : World} (shares : after.SharesWith before)
    (owner : Nat) : after.consumption owner = before.consumption owner := by
  unfold World.consumption
  rw [shares.consumptions]

theorem consumption_setConsumption (owner : Nat) (consumption : Consumption) (world : World) :
    (world.setConsumption owner consumption).consumption owner = consumption := by
  simp [setConsumption, World.consumption]

private theorem spawn_shares (label : Option String) (job : Job) (world : World) :
    (world.spawn label job).SharesWith world :=
  ⟨rfl, rfl, rfl, rfl, rfl⟩

private theorem foldl_spawn_shares (owner : Nat) (indices : List Nat) (world : World) :
    (indices.foldl (fun world index => world.spawn none (.worker owner index none))
      world).SharesWith world := by
  induction indices generalizing world with
  | nil => exact .refl world
  | cons index indices ih => exact (ih _).trans (spawn_shares none _ world)

theorem spawnWorkers_shares (owner : Nat) (world : World) :
    (world.spawnWorkers owner).SharesWith world :=
  foldl_spawn_shares owner _ world

end World

/-- A run has come as far as a consumer of a world, and what is around both is the same. -/
structure Reflects (owner : Nat) (world : World) (run : Run) : Prop where
  now : run.now = world.now
  cells : run.cells = world.cells
  consumption : run.consumption = world.consumption owner

theorem Reflects.share {owner : Nat} {world after : World} {run : Run}
    (reflects : Reflects owner world run) (shares : after.SharesWith world) :
    Reflects owner after run :=
  ⟨reflects.now.trans shares.now.symm, reflects.cells.trans shares.cells.symm,
    reflects.consumption.trans (shares.consumption owner).symm⟩

section

variable {plan : Plan} {world : World} {task : Task} {looks : Bool} {run : Run}
  {progress : Progress}

/-- A run stands where a simulated consumer is suspended. -/
structure Tends (plan : Plan) (world : World) (task : Task) (looks : Bool) (run : Run) :
    Prop where
  job : task.job = .consume plan
  playing : task.play.isSome = true → (run.point.call? plan).isSome = true
  reflects : Reflects task.id world run
  awaits : run.looks = looks
  isCalling : run.isCalling = task.play.isSome
  goesOn : run.isDropped = false

/-- A run stands where a simulated consumer has come to, or both have ended. -/
def TendingArrives (plan : Plan) (owner : Nat) (progress : Progress) (run : Run) : Prop :=
  Reflects owner progress.world run ∧
    match progress.task? with
    | none => ∃ result, run.point = .finished result
    | some task => task.id = owner ∧ Tends plan progress.world task progress.looks run

def consumeReaction (world : World) (task : Task) (plan : Plan) (consumption : Consumption)
    (event : Consumer.Event) : Progress :=
  let reaction := Consumer.react plan world.signals world.now world.cells consumption event
  let world := { world with cells := reaction.cells }.notify reaction.notices
  let world := world.setConsumption task.id reaction.consumption
  let world :=
    if consumption.point.opensStream reaction.consumption.point then world.spawnWorkers task.id
    else world
  match reaction.consumption.point with
  | .finished result => world.endTask task (.ofUnit result)
  | _ => { world, task? := some (task.continueWith (.consume plan)), looks := reaction.looks }

private theorem stepConsume_eq (world : World) (task : Task) (looks : Bool) (plan : Plan) :
    stepConsume world task looks plan =
      let consumption := world.consumption task.id
      match if looks then consumption.interrupt? world.signals world.cells else none with
      | some event => some (consumeReaction world task plan consumption event)
      | none =>
        match consumption.point.call? plan with
        | some call =>
          world.awaitCall task call none consumption.point.deadline?
            (fun world reply => consumeReaction world task plan consumption (.replied reply))
            (fun world => consumeReaction world task plan consumption .expired)
        | none =>
          if world.isOverdue consumption.point.deadline? then
            some (consumeReaction world task plan consumption .expired)
          else none :=
  rfl

private theorem meet_reflects (plan : Plan) (reflects : Reflects task.id world run)
    (signals : run.signals = world.signals) (event : Consumer.Event) :
    let reaction :=
      Consumer.react plan world.signals world.now world.cells (world.consumption task.id) event
    (run.meet plan event).now = world.now ∧ (run.meet plan event).cells = reaction.cells ∧
      (run.meet plan event).consumption = reaction.consumption ∧
      (run.meet plan event).looks = reaction.looks ∧
      (run.meet plan event).isDropped = run.isDropped := by
  dsimp only
  rw [← reflects.now, ← reflects.cells, ← reflects.consumption, ← signals]
  unfold Run.meet Run.moveTo
  dsimp only
  split <;> exact ⟨rfl, rfl, rfl, rfl, rfl⟩

private theorem consume_arrives (reflects : Reflects task.id world run)
    (signals : run.signals = world.signals) (goesOn : run.isDropped = false)
    (event : Consumer.Event) :
    TendingArrives plan task.id
      (consumeReaction world task plan (world.consumption task.id) event)
      (run.meet plan event) := by
  obtain ⟨now, cells, consumption, looks, dropped⟩ :=
    meet_reflects plan reflects signals event
  have idle : (run.meet plan event).isCalling = false := rfl
  generalize run.meet plan event = after at *
  unfold consumeReaction
  dsimp only
  generalize Consumer.react plan world.signals world.now world.cells (world.consumption task.id)
    event = reaction at *
  let told := { world with cells := reaction.cells }.notify reaction.notices
  let placed := told.setConsumption task.id reaction.consumption
  have stands : Reflects task.id placed after :=
    ⟨now, cells, consumption.trans (World.consumption_setConsumption _ _ told).symm⟩
  have point : after.point = reaction.consumption.point := congrArg (·.point) consumption
  have arrives (last : World) (shares : last.SharesWith placed) :
      TendingArrives plan task.id
        (match reaction.consumption.point with
          | .finished result => last.endTask task (.ofUnit result)
          | _ =>
            { world := last
              task? := some (task.continueWith (.consume plan)), looks := reaction.looks })
        after := by
    have standing := stands.share shares
    split
    · next result found =>
      exact ⟨standing.share (World.complete_shares _ _ last), result, point.trans found⟩
    · exact ⟨standing, rfl, rfl, nofun, standing, looks, idle, dropped.trans goesOn⟩
  refine arrives _ ?_
  split
  · exact World.spawnWorkers_shares task.id placed
  · exact .refl placed

theorem Tends.exists_turned (tends : Tends plan world task looks run)
    (overlooked : looks = true →
      (world.consumption task.id).interrupt? world.signals world.cells = none) :
    ∃ turned, Consumer.Steps plan run turned ∧ turned.looks = false ∧
      turned.isCalling = run.isCalling ∧ turned.isDropped = false ∧
      Reflects task.id world turned := by
  cases looks with
  | false => exact ⟨run, .refl, tends.awaits, rfl, tends.goesOn, tends.reflects⟩
  | true =>
      let looking : Run := { run with signals := world.signals }
      have quiet : looking.consumption.interrupt? looking.signals looking.cells = none := by
        change run.consumption.interrupt? world.signals run.cells = none
        rw [tends.reflects.consumption, tends.reflects.cells]
        exact overlooked rfl
      have around : Consumer.Step plan run looking := .around run world.signals run.cells run.now
      refine ⟨looking.turn, ?_, rfl, rfl, tends.goesOn, tends.reflects.now, tends.reflects.cells,
        tends.reflects.consumption⟩
      exact (Relation.ReflTransGen.single around).tail
        (.work tends.goesOn (.overlook tends.awaits quiet))

private theorem exists_session_of_call? {plan : Plan} {point : Consumer.Point} {call : Call}
    (pending : point.call? plan = some call) : ∃ session, point.session? = some session := by
  cases point with
  | limiting session | subscribing session => exact ⟨session, rfl⟩
  | entry | awaiting | streaming | draining | aborting | pausing | finished => cases pending

theorem Tends.exists_calling {call : Call} (tends : Tends plan world task looks run)
    (overlooked : looks = true →
      (world.consumption task.id).interrupt? world.signals world.cells = none)
    (pending : run.point.call? plan = some call) :
    ∃ calling, Consumer.Steps plan run calling ∧ calling.looks = false ∧
      calling.isCalling = true ∧ calling.isDropped = false ∧ Reflects task.id world calling := by
  obtain ⟨turned, steps, looks, -, goesOn, reflects⟩ := tends.exists_turned overlooked
  have point : turned.point = run.point :=
    congrArg (·.point) (reflects.consumption.trans tends.reflects.consumption.symm)
  cases isCalling : turned.isCalling with
  | true => exact ⟨turned, steps, looks, isCalling, goesOn, reflects⟩
  | false =>
      rw [← point] at pending
      obtain ⟨session, found⟩ := exists_session_of_call? pending
      refine ⟨turned.makeCall session call,
        steps.tail (.work goesOn (.call isCalling looks found pending)), looks, rfl, goesOn, ?_⟩
      exact ⟨reflects.now, reflects.cells, reflects.consumption⟩

/-- A run can make the step that a simulated consumer makes. -/
theorem exists_steps_of_stepConsume (tends : Tends plan world task looks run)
    (taken : stepConsume world task looks plan = some progress) :
    ∃ after, Consumer.Steps plan run after ∧ TendingArrives plan task.id progress after := by
  have point : run.point = (world.consumption task.id).point :=
    congrArg (·.point) tends.reflects.consumption
  have react {standing : Run} {after : World} {event : Consumer.Event}
      (steps : Consumer.Steps plan run standing) (goesOn : standing.isDropped = false)
      (reflects : Reflects task.id world standing) (shares : after.SharesWith world)
      (occurs : Consumer.Occurs plan { standing with signals := after.signals } event) :
      ∃ next, Consumer.Steps plan run next ∧
        TendingArrives plan task.id
          (consumeReaction after task plan (world.consumption task.id) event) next := by
    let told : Run := { standing with signals := after.signals }
    have around : Consumer.Step plan standing told :=
      .around standing after.signals standing.cells standing.now
    have standing : Reflects task.id after told :=
      ⟨reflects.now.trans shares.now.symm, reflects.cells.trans shares.cells.symm,
        reflects.consumption.trans (shares.consumption _).symm⟩
    rw [← shares.consumption]
    exact ⟨told.meet plan event, (steps.tail around).tail (.work goesOn (.meet occurs)),
      consume_arrives standing rfl goesOn event⟩
  rw [stepConsume_eq] at taken
  dsimp only at taken
  cases found : if looks then (world.consumption task.id).interrupt? world.signals world.cells
      else none with
  | some event =>
      rw [found] at taken
      cases taken
      rw [Option.ite_none_right_eq_some] at found
      refine react .refl tends.goesOn tends.reflects (.refl world)
        (.interrupt (tends.awaits.trans found.1) ?_)
      change run.consumption.interrupt? world.signals run.cells = some event
      rw [tends.reflects.consumption, tends.reflects.cells]
      exact found.2
  | none =>
      rw [found] at taken
      have overlooked (looking : looks = true) :
          (world.consumption task.id).interrupt? world.signals world.cells = none := by
        simpa [looking] using found
      cases pending : run.point.call? plan with
      | some call =>
          obtain ⟨calling, steps, turned, isCalling, goesOn, reflects⟩ :=
            tends.exists_calling overlooked pending
          have same : calling.point = run.point :=
            congrArg (·.point) (reflects.consumption.trans tends.reflects.consumption.symm)
          rw [← point, pending] at taken
          rcases World.awaitCall_cases taken with ⟨after, play, rfl, shares⟩ |
            ⟨after, reply, rfl, shares, answers⟩ | ⟨overdue, rfl⟩
          · have standing := reflects.share shares
            have due : (calling.point.call? plan).isSome = true := by rw [same, pending]; rfl
            exact ⟨calling, steps, standing, rfl, tends.job, fun _ => due, standing, turned,
              isCalling, goesOn⟩
          · exact react steps goesOn reflects shares
              (.reply isCalling turned (same ▸ pending) answers)
          · obtain ⟨deadline, limit, past⟩ := World.exists_deadline_of_overdue overdue
            have waits : calling.IsWaiting plan := by
              rw [Run.IsWaiting, isCalling, same, pending]
              rfl
            rw [← reflects.now] at past
            exact react steps goesOn reflects (.refl world)
              (.expire waits (.inl turned) (same ▸ limit) past)
      | none =>
          obtain ⟨turned, steps, looks, sameCalling, goesOn, reflects⟩ :=
            tends.exists_turned overlooked
          have same : turned.point = run.point :=
            congrArg (·.point) (reflects.consumption.trans tends.reflects.consumption.symm)
          rw [← point, pending] at taken
          dsimp only at taken
          split at taken
          · next overdue =>
            cases taken
            obtain ⟨deadline, limit, past⟩ := World.exists_deadline_of_overdue overdue
            have idle : task.play.isSome = false := by
              simpa [pending] using tends.playing
            have waits : turned.IsWaiting plan := by
              rw [Run.IsWaiting, sameCalling, tends.isCalling, same, pending, idle]
              rfl
            rw [← reflects.now] at past
            exact react steps goesOn reflects (.refl world)
              (.expire waits (.inl looks) (same ▸ limit) past)
          · cases taken

/-- A consumer that is suspended can be polled anew in the run as well. -/
theorem Tends.exists_poll_of_suspended (tends : Tends plan world task false run)
    (suspended : stepConsume world task false plan = none) :
    ∃ after, Consumer.Step plan run after ∧ Tends plan world task true after := by
  have point : run.point = (world.consumption task.id).point :=
    congrArg (·.point) tends.reflects.consumption
  have playing : task.play.isSome = (run.point.call? plan).isSome := by
    cases pending : run.point.call? plan with
    | none => simpa [pending] using tends.playing
    | some call =>
        cases play : task.play with
        | some => rfl
        | none =>
            obtain ⟨progress, taken⟩ := World.exists_awaitCall play
            rw [stepConsume_eq] at suspended
            dsimp only at suspended
            rw [← point, pending] at suspended
            exact absurd (taken.symm.trans suspended) nofun
  refine ⟨_, .poll tends.goesOn (tends.isCalling.trans playing), ?_⟩
  exact ⟨tends.job, tends.playing, ⟨tends.reflects.now, tends.reflects.cells,
    tends.reflects.consumption⟩, rfl, tends.isCalling, tends.goesOn⟩

/-- A consumer that has just been started stands where a run starts. -/
theorem exists_tends_of_fresh (job : task.job = .consume plan) (idle : task.play = none)
    (fresh : world.consumption task.id = {}) :
    ∃ run, Consumer.Steps plan {} run ∧ Tends plan world task true run := by
  refine ⟨_, .single (.around {} world.signals world.cells world.now), job, ?_,
    ⟨rfl, rfl, fresh.symm⟩, rfl, ?_, rfl⟩
  · rw [idle]
    exact nofun
  · rw [idle]
    rfl

end

end AmqpClient.Simulation
