import AmqpClient.Proofs.Simulation.Replies
import AmqpClient.Proofs.Supervisor.Session
import AmqpClient.Simulation.Scenario

/-!
# The simulated loop makes runs

Whatever the simulated loop does in one poll, a run can do as well, and both come
to the same cells. So what holds of all runs holds of the loop that is executed.
-/

set_option autoImplicit false

namespace AmqpClient.Simulation

open Supervisor (Plan Point Event Run Steps)

/-- A run stands where the simulated loop stands. A call that is to be made at once
has been made in the run. -/
structure Mirrors (plan : Plan) (world : World) (task : Task) (looks : Bool) (point : Point)
    (run : Run) : Prop where
  job : task.job = .loop plan point
  playing : task.play.isSome = true → (point.call? plan).isSome = true
  now : run.now = world.now
  cells : run.cells = world.cells
  stands : run.point = point
  awaits : run.looks = looks
  isCalling : run.isCalling = (task.play.isSome || !looks && (point.call? plan).isSome)

/-- A run stands where the simulated loop has come to, or both have ended. -/
def Arrives (plan : Plan) (progress : Progress) (run : Run) : Prop :=
  run.cells = progress.world.cells ∧
    match progress.task? with
    | none => run.point = .closed
    | some task => ∃ point, Mirrors plan progress.world task progress.looks point run

def loopReaction (world : World) (task : Task) (plan : Plan) (point : Point) (event : Event) :
    Progress :=
  let reaction := Supervisor.react plan world.signals world.now world.cells point event
  let world := { world with cells := reaction.cells }.notify reaction.notices
  match reaction.next with
  | .proceed .closed => { world, task? := none }
  | .proceed point => { world, task? := some (task.continueWith (.loop plan point)) }
  | .await point => { world, task? := some (task.continueWith (.loop plan point)), looks := true }

private theorem stepLoop_eq (world : World) (task : Task) (looks : Bool) (plan : Plan)
    (point : Point) :
    stepLoop world task looks plan point =
      match if looks then point.interrupt? world.signals world.cells else none with
      | some event => some (loopReaction world task plan point event)
      | none =>
        match point.call? plan with
        | some call =>
          world.awaitCall task call (some world.cells.state) point.deadline?
            (fun world reply => loopReaction world task plan point (.replied reply))
            (fun world => loopReaction world task plan point .expired)
        | none =>
          if world.isOverdue point.deadline? then
            some (loopReaction world task plan point .expired)
          else none :=
  rfl

section

variable {plan : Plan} {world : World} {task : Task} {looks : Bool} {point : Point} {run : Run}

private theorem moveTo_proceed (run : Run) (plan : Plan) (point : Point) :
    ∃ history,
      run.moveTo plan (.proceed point) =
        { run with
          point, looks := false, isCalling := (point.call? plan).isSome, history } := by
  simp only [Run.moveTo, Run.makeCall, Supervisor.Next.point, Supervisor.Next.looks]
  cases pending : point.call? plan with
  | none => exact ⟨_, rfl⟩
  | some call => exact ⟨_, rfl⟩

private theorem react_arrives (ended : Run) (now : ended.now = world.now)
    (cells : ended.cells = world.cells) (signals : ended.signals = world.signals)
    (atPoint : ended.point = point) (event : Event) :
    Arrives plan (loopReaction world task plan point event) (ended.react plan event) := by
  simp only [loopReaction, Run.react, now, cells, signals, atPoint]
  generalize Supervisor.react plan world.signals world.now world.cells point event = reaction
  obtain ⟨cells, next, notices⟩ := reaction
  have stays : (ended.setCells cells).now = world.now := by
    rw [← now]
    unfold Run.setCells
    split <;> rfl
  have same := Run.cells_setCells ended cells
  have plays (point : Point) :
      (task.continueWith (.loop plan point)).play.isSome = true →
        (point.call? plan).isSome = true :=
    fun playing => absurd playing Bool.false_ne_true
  cases next with
  | await point => exact ⟨same, point, rfl, plays point, stays, same, rfl, rfl, rfl⟩
  | proceed point =>
      obtain ⟨history, moved⟩ := moveTo_proceed (ended.setCells cells) plan point
      rw [moved]
      cases point with
      | closed => exact ⟨same, rfl⟩
      | _ => exact ⟨same, _, rfl, plays _, stays, same, rfl, rfl, rfl⟩

theorem exists_turned (mirrors : Mirrors plan world task looks point run)
    (overlooked : looks = true → point.interrupt? world.signals world.cells = none) :
    ∃ turned, Steps plan run turned ∧ turned.looks = false ∧
      turned.isCalling = run.isCalling ∧ turned.now = world.now ∧ turned.cells = world.cells ∧
      turned.point = point := by
  cases looks with
  | false =>
      exact ⟨run, .refl, mirrors.awaits, rfl, mirrors.now, mirrors.cells, mirrors.stands⟩
  | true =>
      let looking : Run := { run with signals := world.signals }
      have quiet : looking.point.interrupt? looking.signals looking.cells = none := by
        simpa [looking, mirrors.stands, mirrors.cells] using overlooked rfl
      have turned : Steps plan run looking.turn :=
        (Relation.ReflTransGen.single (.signal run _)).tail (.overlook mirrors.awaits quiet)
      exact ⟨looking.turn, turned, rfl, rfl, mirrors.now, mirrors.cells, mirrors.stands⟩

theorem exists_calling {call : Call} (mirrors : Mirrors plan world task looks point run)
    (overlooked : looks = true → point.interrupt? world.signals world.cells = none)
    (pending : point.call? plan = some call) :
    ∃ calling, Steps plan run calling ∧ calling.looks = false ∧ calling.isCalling = true ∧
      calling.now = world.now ∧ calling.cells = world.cells ∧ calling.point = point := by
  obtain ⟨turned, steps, looks, -, now, cells, stands⟩ := exists_turned mirrors overlooked
  cases isCalling : turned.isCalling with
  | true => exact ⟨turned, steps, looks, isCalling, now, cells, stands⟩
  | false =>
      refine ⟨turned.makeCall plan, steps.tail (.call isCalling looks), ?_⟩
      simp only [Run.makeCall, stands, pending]
      exact ⟨looks, trivial, now, cells, stands⟩

private theorem endCall_arrives (ended : Run) (now : ended.now = world.now)
    (cells : ended.cells = world.cells) (signals : ended.signals = world.signals)
    (stands : ended.point = point) (ending : Call → Supervisor.Mark) (event : Event) :
    Arrives plan (loopReaction world task plan point event)
      ((ended.endCall plan ending).react plan event) := by
  obtain ⟨history, same⟩ := ended.endCall_eq plan ending
  rw [same]
  exact react_arrives { ended with history } now cells signals stands event

/-- A run can make the step that the simulated loop makes. -/
theorem exists_steps_of_stepLoop {progress : Progress}
    (mirrors : Mirrors plan world task looks point run)
    (started : world.cells.handle ≠ .absent)
    (taken : stepLoop world task looks plan point = some progress) :
    ∃ after, Steps plan run after ∧ Arrives plan progress after := by
  rw [stepLoop_eq] at taken
  cases found : if looks then point.interrupt? world.signals world.cells else none with
  | some event =>
      rw [found] at taken
      cases taken
      rw [Option.ite_none_right_eq_some] at found
      obtain ⟨looking, interrupt⟩ := found
      let seeing : Run := { run with signals := world.signals }
      have look : Supervisor.Step plan seeing (seeing.meet plan event) := by
        refine .look ?_ (mirrors.awaits.trans looking) ?_
        · simpa [seeing, mirrors.cells] using started
        · simpa [seeing, mirrors.stands, mirrors.cells] using interrupt
      exact ⟨_, (Relation.ReflTransGen.single (.signal run _)).tail look,
        endCall_arrives seeing mirrors.now mirrors.cells rfl mirrors.stands _ event⟩
  | none =>
      rw [found] at taken
      have overlooked (looking : looks = true) :
          point.interrupt? world.signals world.cells = none := by
        simpa [looking] using found
      cases pending : point.call? plan with
      | some call =>
          obtain ⟨calling, steps, turned, isCalling, now, cells, stands⟩ :=
            exists_calling mirrors overlooked pending
          rw [pending] at taken
          rcases World.awaitCall_cases taken with ⟨after, play, rfl, shares⟩ |
            ⟨after, reply, rfl, shares, answers⟩ | ⟨overdue, rfl⟩
          · -- Making the call suspends the loop, and the run has made it already.
            refine ⟨calling, steps, cells.trans shares.cells.symm, point, ?_⟩
            exact ⟨mirrors.job, fun _ => by simp [pending], now.trans shares.now.symm,
              cells.trans shares.cells.symm, stands, turned, isCalling⟩
          · let heard : Run := { calling with signals := after.signals }
            have returned : Supervisor.Step plan heard (heard.receive plan reply) :=
              .reply isCalling turned (by simpa [heard, stands] using pending) answers
            exact ⟨_, (steps.tail (.signal calling _)).tail returned,
              endCall_arrives heard (now.trans shares.now.symm)
                (cells.trans shares.cells.symm) rfl stands _ _⟩
          · obtain ⟨deadline, limit, due⟩ := World.exists_deadline_of_overdue overdue
            let waiting : Run := { calling with signals := world.signals }
            have waits : waiting.IsWaiting plan := by
              simp [Run.IsWaiting, waiting, isCalling, stands, pending]
            rw [← stands] at limit
            rw [← now] at due
            have expired : Supervisor.Step plan waiting (waiting.timeOut plan) :=
              .expire waits (.inl turned) limit due
            exact ⟨_, (steps.tail (.signal calling _)).tail expired,
              endCall_arrives waiting now cells rfl stands _ _⟩
      | none =>
          rw [pending] at taken
          obtain ⟨turned, steps, looks, sameCalling, now, cells, stands⟩ :=
            exists_turned mirrors overlooked
          dsimp only at taken
          split at taken
          · next overdue =>
            cases taken
            obtain ⟨deadline, limit, due⟩ := World.exists_deadline_of_overdue overdue
            have idle : task.play.isSome = false := by
              simpa [pending] using mirrors.playing
            let waiting : Run := { turned with signals := world.signals }
            have waits : waiting.IsWaiting plan := by
              simp [Run.IsWaiting, waiting, sameCalling, mirrors.isCalling, stands, pending, idle]
            rw [← stands] at limit
            rw [← now] at due
            have expired : Supervisor.Step plan waiting (waiting.timeOut plan) :=
              .expire waits (.inl looks) limit due
            exact ⟨_, (steps.tail (.signal turned _)).tail expired,
              endCall_arrives waiting now cells rfl stands _ _⟩
          · cases taken

/-- A loop that is suspended can be polled anew in the run as well. -/
theorem exists_poll_of_suspended (mirrors : Mirrors plan world task false point run)
    (suspended : stepLoop world task false plan point = none) :
    ∃ after, Supervisor.Step plan run after ∧ Mirrors plan world task true point after := by
  have playing : task.play.isSome = (point.call? plan).isSome := by
    cases pending : point.call? plan with
    | none => simpa [pending] using mirrors.playing
    | some call =>
        cases play : task.play with
        | some => rfl
        | none =>
            obtain ⟨progress, taken⟩ := World.exists_awaitCall play
            rw [stepLoop_eq, pending] at suspended
            exact absurd (taken.symm.trans suspended) nofun
  have waits : run.IsWaiting plan := by
    simp [Run.IsWaiting, mirrors.isCalling, mirrors.stands, playing]
  refine ⟨_, .poll waits, ?_⟩
  exact ⟨mirrors.job, mirrors.playing, mirrors.now, mirrors.cells, mirrors.stands, rfl,
    by simp [mirrors.isCalling, playing]⟩

end

/-- A loop that has just been started stands where a run stands that was started. -/
theorem exists_mirrors_of_startLoop (plan : Plan) (world : World) (cells : SupervisorCells)
    (fresh : world.cells = {}) (started : world.cells.start = .ok cells) :
    ∃ run task, Supervisor.Reachable plan run ∧
      task ∈ (Scenario.startLoop plan cells world).tasks ∧
      Mirrors plan (Scenario.startLoop plan cells world) task true .entry run := by
  have pass : Supervisor.Step plan {} { now := 0 + world.now } := .pass {} world.now
  have start : Supervisor.Step plan { now := 0 + world.now } { cells, now := 0 + world.now } :=
    .start (fresh ▸ started)
  exact ⟨_, _, (Relation.ReflTransGen.single pass).tail start,
    List.mem_append_right _ List.mem_cons_self, rfl, nofun, Nat.zero_add _, rfl, rfl, rfl, rfl⟩

end AmqpClient.Simulation
