import AmqpClient.Proofs.Supervisor.Bookkeeping

/-!
# Polls of the loop

The loop's task is polled as a whole: it looks at its interrupts, takes up what has
come, and goes on until it has to wait. Whatever else happens comes before a poll or
after it. Runs that are made of such turns are runs of single steps.
-/

set_option autoImplicit false

namespace AmqpClient.Supervisor

/-- What the loop does by itself while it is polled. -/
inductive Work (plan : Plan) : Run → Run → Prop where
  | look {run : Run} {event : Event} :
      run.cells.handle ≠ .absent → run.looks = true →
      run.point.interrupt? run.signals run.cells = some event →
      Work plan run (run.meet plan event)
  | overlook {run : Run} :
      run.looks = true → run.point.interrupt? run.signals run.cells = none →
      Work plan run run.turn
  | call {run : Run} :
      run.isCalling = false → run.looks = false → Work plan run (run.makeCall plan)
  | reply {run : Run} {call : Call} {reply : Reply} :
      run.isCalling = true → run.looks = false → run.point.call? plan = some call →
      (∀ answer, reply = .ok answer → answer.answers call = true) →
      Work plan run (run.receive plan reply)
  | expire {run : Run} {deadline : Nat} :
      run.IsWaiting plan → run.looks = false ∨ run.point.isPause = true →
      run.point.deadline? = some deadline → deadline ≤ run.now →
      Work plan run (run.timeOut plan)

/-- What may come next while time is virtual: callers, the broker and the clock take their
turn only where the loop waits. -/
inductive Timed (plan : Plan) : Run → Run → Prop where
  | work {run after : Run} (work : Work plan run after) : Timed plan run after
  | other {run after : Run} (waits : run.IsWaiting plan) (step : Step plan run after) :
      Timed plan run after

/-- The loop has nothing left to do but to wait, and its wait is not over. -/
structure Run.IsSuspended (plan : Plan) (run : Run) : Prop where
  waits : run.IsWaiting plan
  looked : run.looks = false
  early : ∀ deadline, run.point.deadline? = some deadline → run.now < deadline

/-- One poll of the loop, from its waiting to its waiting again. -/
structure Poll (plan : Plan) (run after : Run) : Prop where
  waits : run.IsWaiting plan
  works : Relation.ReflTransGen (Work plan) { run with looks := true } after
  suspends : after.IsSuspended plan

/-- What happens between two polls, or one poll. -/
inductive Turn (plan : Plan) : Run → Run → Prop where
  | pass (run : Run) (milliseconds : Nat) :
      Turn plan run { run with now := run.now + milliseconds }
  | signal (run : Run) (signals : Signals) : Turn plan run { run with signals }
  | start {run : Run} {cells : SupervisorCells} :
      run.cells.start = .ok cells → Turn plan run { run with cells }
  | shutDown {run : Run} {cells : SupervisorCells} :
      run.cells.beginShutdown = .ok cells → Turn plan run (run.setCells cells)
  | request (run : Run) (generation : Nat) : Turn plan run (run.name generation).wake
  | poll {run after : Run} : Poll plan run after → Turn plan run after

abbrev Turns (plan : Plan) : Run → Run → Prop :=
  Relation.ReflTransGen (Turn plan)

section

variable {plan : Plan} {run after : Run} {cells : SupervisorCells}

theorem Work.step (work : Work plan run after) : Step plan run after := by
  cases work with
  | look started looks found => exact .look started looks found
  | overlook looks none => exact .overlook looks none
  | call idle overlooked => exact .call idle overlooked
  | reply calling overlooked pending answers => exact .reply calling overlooked pending answers
  | expire waits overlooked limit due => exact .expire waits overlooked limit due

theorem Timed.step (timed : Timed plan run after) : Step plan run after := by
  cases timed with
  | work work => exact work.step
  | other waits step => exact step

theorem Poll.timed (poll : Poll plan run after) : Relation.ReflTransGen (Timed plan) run after := by
  have works : Relation.ReflTransGen (Timed plan) { run with looks := true } after :=
    Relation.ReflTransGen.mono (fun _ _ => Timed.work) _ _ poll.works
  exact works.head (.other poll.waits (.poll poll.waits))

theorem SupervisorCells.eq_of_beginShutdown (begun : run.cells.beginShutdown = .ok cells) :
    run.cells.isShutDown = false ∧
      cells = ({ run.cells with isShutDown := true } : SupervisorCells).takeHandle := by
  unfold SupervisorCells.beginShutdown at begun
  cases raised : run.cells.raiseShutdown with
  | error error =>
      rw [raised] at begun
      cases begun
  | ok flagged =>
      rw [raised] at begun
      cases begun
      obtain ⟨up, rfl⟩ := SupervisorCells.eq_of_raiseShutdown raised
      exact ⟨up, rfl⟩

theorem Work.answered {call : Call} (answer : Answer) (calling : run.isCalling = true)
    (overlooked : run.looks = false) (pending : run.point.call? plan = some call)
    (answers : answer.answers call = true) : Work plan run (run.receive plan (.ok answer)) := by
  refine .reply calling overlooked pending ?_
  rintro given ⟨⟩
  exact answers

namespace Run

/-- What is known of a run between two polls. -/
structure IsAtRest (plan : Plan) (run : Run) : Prop where
  waits : run.IsWaiting plan
  settled : run.isEnding = false
  /-- A supervisor without a loop is closed at once. -/
  closed : run.cells.isShutDown = true → run.cells.handle = .absent → run.cells.state = .closed

private theorem isAtRest_initial : ({} : Run).IsAtRest plan where
  waits := rfl
  settled := rfl
  closed := nofun

end Run

theorem Poll.started (poll : Poll plan run after) (coherent : run.IsCoherent) :
    run.cells.handle ≠ .absent := by
  intro absent
  have atEntry := coherent.unstarted absent
  rcases Relation.ReflTransGen.cases_head poll.works with rfl | ⟨next, work, -⟩
  · cases poll.suspends.looked
  · cases work with
    | look started => exact started absent
    | overlook looks none => simp [atEntry, Point.interrupt?] at none
    | call idle overlooked | reply calling overlooked => cases overlooked
    | expire waits overlooked limit => simp [atEntry, Point.deadline?] at limit

theorem LeavesCallers.trans {first second third : SupervisorCells}
    (early : LeavesCallers first second) (late : LeavesCallers second third) :
    LeavesCallers first third :=
  ⟨late.isShutDown.trans early.isShutDown, late.requested.trans early.requested,
    late.handle.trans early.handle⟩

/-- What no reaction of the loop touches. -/
structure Run.Surrounds (run after : Run) : Prop where
  callers : LeavesCallers run.cells after.cells
  isEnding : after.isEnding = run.isEnding
  now : after.now = run.now

namespace Run.Surrounds

theorem refl (run : Run) : run.Surrounds run :=
  ⟨⟨rfl, rfl, rfl⟩, rfl, rfl⟩

theorem work (work : Work plan run after) : run.Surrounds after := by
  have reacts (ending : Call → Mark) (event : Event) :
      run.Surrounds ((run.endCall plan ending).react plan event) := by
    rw [endCall_react_eq]
    exact ⟨react_leavesCallers plan run.signals run.now run.cells run.point event, rfl, rfl⟩
  cases work with
  | overlook => exact ⟨⟨rfl, rfl, rfl⟩, rfl, rfl⟩
  | call =>
      obtain ⟨isCalling, history, same⟩ := run.makeCall_eq plan
      rw [same]
      exact ⟨⟨rfl, rfl, rfl⟩, rfl, rfl⟩
  | look | reply | expire => exact reacts _ _

theorem works (works : Relation.ReflTransGen (Work plan) run after) : run.Surrounds after := by
  induction works with
  | refl => exact refl run
  | tail _ last ih =>
      have late := work last
      exact ⟨ih.callers.trans late.callers, late.isEnding.trans ih.isEnding,
        late.now.trans ih.now⟩

end Run.Surrounds

theorem Poll.surrounds (poll : Poll plan run after) : run.Surrounds after := by
  obtain ⟨callers, isEnding, now⟩ := Run.Surrounds.works poll.works
  exact ⟨callers, isEnding, now⟩

theorem Run.IsAtRest.turn (rest : run.IsAtRest plan) (coherent : run.IsCoherent)
    (turn : Turn plan run after) : after.IsAtRest plan := by
  obtain ⟨waits, settled, closed⟩ := rest
  cases turn with
  | pass | signal => exact ⟨waits, settled, closed⟩
  | request => exact ⟨waits, settled, closed⟩
  | start started =>
      obtain ⟨up, rfl⟩ := SupervisorCells.eq_of_start started
      exact ⟨waits, settled, fun down => absurd (up.symm.trans down) Bool.false_ne_true⟩
  | shutDown begun =>
      obtain ⟨up, rfl⟩ := SupervisorCells.eq_of_beginShutdown begun
      obtain ⟨history, same⟩ := run.setCells_eq
        ({ run.cells with isShutDown := true } : SupervisorCells).takeHandle
      rw [same]
      refine ⟨waits, settled, fun _ absent => ?_⟩
      cases handle : run.cells.handle with
      | present => simp [SupervisorCells.takeHandle_of_present, handle] at absent
      | absent => simp [SupervisorCells.takeHandle_of_absent, handle]
      | taken => cases up.symm.trans (coherent.ended handle)
  | poll poll =>
      have around := poll.surrounds
      refine ⟨poll.suspends.waits, around.isEnding.trans settled, ?_⟩
      intro down absent
      exact absurd (around.callers.handle.symm.trans absent) (poll.started coherent)

/-- A turn leaves time virtual. -/
theorem Turn.timed (turn : Turn plan run after) (rest : run.IsAtRest plan) :
    Relation.ReflTransGen (Timed plan) run after := by
  have waits := rest.waits
  cases turn with
  | pass milliseconds => exact .single (.other waits (.pass run milliseconds))
  | signal signals => exact .single (.other waits (.signal run signals))
  | start started => exact .single (.other waits (.start started))
  | request generation =>
      have named : Timed plan run (run.name generation) := .other waits (.name run generation)
      exact (Relation.ReflTransGen.single named).tail (.other waits (.wake _))
  | poll poll => exact poll.timed
  | shutDown begun =>
      obtain ⟨up, rfl⟩ := SupervisorCells.eq_of_beginShutdown begun
      let raised : SupervisorCells := { run.cells with isShutDown := true }
      let flagged : Run := { run with cells := raised, isEnding := true }
      have raise : Step plan run flagged :=
        .raise (by simp [SupervisorCells.raiseShutdown, up, raised])
      have take : Step plan flagged { flagged.setCells raised.takeHandle with isEnding := false } :=
        .take rfl
      have same : ({ flagged.setCells raised.takeHandle with isEnding := false } : Run) =
          run.setCells raised.takeHandle := by
        obtain ⟨cells, signals, now, point, looks, isCalling, isEnding, history, named⟩ := run
        cases rest.settled
        unfold Run.setCells
        split <;> rfl
      rw [same] at take
      exact .tail (.single (.other waits raise)) (.other waits take)

theorem Turn.steps (turn : Turn plan run after) (rest : run.IsAtRest plan) :
    Steps plan run after :=
  Relation.ReflTransGen.mono (fun _ _ => Timed.step) _ _ (turn.timed rest)

theorem Run.isAtRest_of_turns (turns : Turns plan {} run) :
    run.IsAtRest plan ∧ Reachable plan run := by
  induction turns with
  | refl => exact ⟨isAtRest_initial, .refl⟩
  | tail _ turn ih =>
      obtain ⟨rest, reached⟩ := ih
      exact ⟨rest.turn (isCoherent_of_reachable reached) turn, reached.trans (turn.steps rest)⟩

end

end AmqpClient.Supervisor
