import AmqpClient.Proofs.Consumer.Record

/-!
# Every delivery is handled once

A worker is polled as a whole: it looks for the stop mark, pulls an item if it comes first
in line, calls the handler and goes on until it has to wait. Whatever the order of such
polls, and wherever the pool is stopped or cut off between them, the handler is called
once for each delivery that the stream gave, by the worker that pulled it.
-/

set_option autoImplicit false

namespace AmqpClient.Consumer.Shift

/-- One poll of a worker, from its waiting to its waiting again. -/
structure Poll (index : Nat) (shift after : Shift) : Prop where
  alive : (shift.pool.worker index).isOver = false
  waits : shift.IsWaiting index
  works : Relation.ReflTransGen (Work index) (shift.setLooks true index) after
  waitsAgain : after.IsWaiting index
  looked : (after.hands index).looks = false
  /-- A worker that has come first in line has asked in vain before it waits again. -/
  asked : after.pool.worker index = .waiting → after.pool.isFirst index = true →
    (after.marks.drop shift.marks.length).getLast? = some (.asked index)

/-- What happens between two polls, or one poll. A worker that is to be cut off is not
polled again. -/
inductive Turn : Shift → Shift → Prop where
  | poll {shift after : Shift} {index : Nat} :
      shift.pool.isCancelled = false → Poll index shift after → Turn shift after
  | abort {shift : Shift} {index : Nat} :
      shift.pool.isCancelled = true → shift.IsWaiting index →
      (shift.pool.worker index).isOver = false → Turn shift (shift.meet index .abort)
  | order {shift : Shift} {pool : Pool} :
      Order shift.pool pool → Turn shift { shift with pool }

abbrev Turns : Shift → Shift → Prop :=
  Relation.ReflTransGen Turn

section

variable {shift after : Shift} {index : Nat} {event : WorkerEvent}

theorem Poll.steps (poll : Poll index shift after) : Steps shift after := by
  have works : Steps (shift.setLooks true index) after :=
    Relation.ReflTransGen.mono (fun _ _ work => .act (.work work)) _ _ poll.works
  exact works.head (.act (.poll poll.waits))

theorem Turn.steps (turn : Turn shift after) : Steps shift after := by
  cases turn with
  | poll _ poll => exact poll.steps
  | abort cancelled waits alive => exact .single (.act (.abort cancelled waits alive))
  | order order => exact .single (.order order)

theorem Turns.steps (turns : Turns shift after) : Steps shift after := by
  induction turns with
  | refl => exact .refl
  | tail _ turn steps => exact steps.trans turn.steps

/-! ## What is pulled -/

theorem pulls_meet : (shift.meet index event).pulls = shift.pulls ++ itemMarks index event := by
  have apart (deliveries : List (Nat × Delivery)) :
      (deliveries.map fun pair => Mark.ended pair.1 pair.2).filter Mark.pulls = [] := by
    simp [List.filter_map, Function.comp_def, Mark.pulls]
  have pulled : (itemMarks index event).filter Mark.pulls = itemMarks index event := by
    cases event <;> rfl
  rw [pulls, meet, List.filter_append, List.filter_append, apart, pulled, List.append_nil, pulls]

private theorem pulls_call : (shift.call index).pulls = shift.pulls := by
  have apart (deliveries : List (Nat × Delivery)) :
      (deliveries.map fun pair => Mark.began pair.1 pair.2).filter Mark.pulls = [] := by
    simp [List.filter_map, Function.comp_def, Mark.pulls]
  rw [pulls, call, List.filter_append, apart, List.append_nil, pulls]

theorem pulls_askInVain : (shift.askInVain index).pulls = shift.pulls ++ [.asked index] :=
  List.filter_append ..

/-- An answer takes a worker back to its place before the line, or to the broker. -/
theorem worker_meet_ne_waiting (answers : Answers (shift.pool.worker index) event) :
    (shift.meet index event).pool.worker index ≠ .waiting := by
  have moves := Pool.react_moves (.answer answers)
  have alive := (Meets.answer answers).isOver_eq_false
  change (shift.pool.react index event).pool.worker index ≠ .waiting
  generalize (shift.pool.react index event).next = next at moves
  generalize (shift.pool.react index event).pool = pool at moves
  intro waits
  cases moves with
  | join | take => generalize shift.pool.worker index = point at answers; cases answers
  | finish | giveBack =>
      rw [Pool.worker_moveTo_self _ alive] at waits
      cases waits
  | leave =>
      change ((shift.pool.leaveLine index).moveTo .finished index).worker index = .waiting at waits
      rw [Pool.worker_moveTo_finished] at waits
      cases waits

theorem itemMarks_of_answers {point : WorkerPoint} (answers : Answers point event) :
    itemMarks index event = [] := by
  cases answers <;> rfl

/-! ## A stopped pool -/

/-- A worker of a stopped pool that will see the stop mark before it pulls anything. -/
structure IsHeld (index : Nat) (shift : Shift) : Prop where
  stopped : shift.pool.isStopped = true
  looks : shift.pool.worker index = .waiting → (shift.hands index).looks = true

private theorem isStopped_meet (meets : Meets (shift.pool.worker index) event) :
    (shift.meet index event).pool.isStopped = shift.pool.isStopped :=
  (Pool.react_moves meets).sharesWith.isStopped

theorem IsHeld.work (held : shift.IsHeld index) (work : Work index shift after) :
    after.pulls = shift.pulls ∧ after.IsHeld index := by
  cases work with
  | @look event looks found =>
      obtain ⟨meets, ⟨-, rfl⟩ | ⟨going, -⟩⟩ := Pool.meets_of_interrupt? found
      case inr =>
        rw [held.stopped] at going
        cases going
      refine ⟨by rw [pulls_meet]; exact List.append_nil _, ?_, fun waits => ?_⟩
      · rw [isStopped_meet meets, held.stopped]
      · have gone : (shift.meet index .stop).pool.worker index = .finished :=
          Pool.worker_react_stop meets
        rw [gone] at waits
        cases waits
  | overlook looks none =>
      refine ⟨rfl, held.stopped, fun waits => ?_⟩
      change shift.pool.worker index = .waiting at waits
      rw [Pool.interrupt?, waits, held.stopped] at none
      cases none
  | ask item overlooked atPoint =>
      rw [held.looks atPoint] at overlooked
      cases overlooked
  | askInVain overlooked atPoint =>
      rw [held.looks atPoint] at overlooked
      cases overlooked
  | call overlooked idle had =>
      refine ⟨pulls_call, held.stopped, fun waits => ?_⟩
      change shift.pool.worker index = .waiting at waits
      rw [waits] at had
      cases had
  | hear overlooked calling answers =>
      refine ⟨?_, ?_, fun waits => absurd waits (worker_meet_ne_waiting answers)⟩
      · rw [pulls_meet, itemMarks_of_answers answers, List.append_nil]
      · rw [isStopped_meet (.answer answers), held.stopped]

theorem IsHeld.works (held : shift.IsHeld index)
    (works : Relation.ReflTransGen (Work index) shift after) :
    after.pulls = shift.pulls ∧ after.IsHeld index := by
  induction works with
  | refl => exact ⟨rfl, held⟩
  | tail _ work early =>
      obtain ⟨pulls, held⟩ := early.2.work work
      exact ⟨pulls.trans early.1, held⟩

theorem Turn.held (turn : Turn shift after) (stopped : shift.pool.isStopped = true) :
    after.pulls = shift.pulls ∧ after.pool.isStopped = true := by
  cases turn with
  | @poll _ index alive poll =>
      have start : (shift.setLooks true index).IsHeld index :=
        ⟨stopped, fun _ => by simp [setLooks]⟩
      obtain ⟨pulls, held⟩ := start.works poll.works
      exact ⟨pulls, held.stopped⟩
  | abort cancelled waits alive =>
      refine ⟨by rw [pulls_meet]; exact List.append_nil _, ?_⟩
      rw [isStopped_meet (.abort alive), stopped]
  | order order =>
      refine ⟨rfl, ?_⟩
      cases order with
      | stop => rfl
      | cancel | report => exact stopped

theorem Turns.held (turns : Turns shift after) (stopped : shift.pool.isStopped = true) :
    after.pulls = shift.pulls ∧ after.pool.isStopped = true := by
  induction turns with
  | refl => exact ⟨rfl, stopped⟩
  | tail _ turn early =>
      obtain ⟨pulls, stopped⟩ := turn.held early.2
      exact ⟨pulls.trans early.1, stopped⟩

end

/-! ## Handing out -/

structure HandsOut (shift : Shift) : Prop where
  /-- Each worker calls the handler for what it pulled, once each and in order. -/
  inOrder : ∀ index,
    ofWorker index shift.taken = ofWorker index shift.begun ++ shift.inHand index
  freeHanded : ∀ index, shift.IsWaiting index → shift.inHand index = []
  exactly : (∀ index, shift.IsWaiting index) → shift.begun.Perm shift.taken
  /-- A worker that leaves the line without an item takes nothing with it, and those behind
  it move up. -/
  leavesAll : ∀ index event, shift.pool.worker index = .waiting → event = .stop ∨ event = .abort →
    ofWorker index shift.begun = ofWorker index shift.taken ∧
      (shift.meet index event).marks = shift.marks ∧
      (shift.meet index event).pool.line = shift.pool.line.filter (· ≠ index)
  /-- Nothing is pulled once the pool is stopped. -/
  stopped : shift.pool.isStopped = true → ∀ later, Turns shift later → later.pulls = shift.pulls

theorem handsOut_of_steps (queue : String) (stream count : Nat) {shift : Shift}
    (steps : Steps (fresh queue stream count) shift) : shift.HandsOut := by
  have orderly := steps.isOrderly (isOrderly_fresh queue stream count)
  have recorded :=
    steps.isRecorded (isOrderly_fresh queue stream count) (isRecorded_fresh queue stream count)
  refine ⟨recorded.taken, fun index => inHand_eq_nil, recorded.begun_perm_taken, ?_,
    fun stopped later turns => (turns.held stopped).1⟩
  intro index event atPoint leaves
  have idle : shift.running index = [] := by
    rw [running, job, atPoint]
    exact ite_self _
  refine ⟨?_, ?_, ?_⟩
  · rw [recorded.taken, inHand_eq_nil (orderly.isWaiting_of_waiting atPoint), List.append_nil]
  · rw [meet, idle]
    rcases leaves with rfl | rfl <;> simp [itemMarks]
  · rw [meet]
    rcases leaves with rfl | rfl <;> simp [Pool.react, atPoint, Pool.moveTo, Pool.leaveLine]

/-- Two workers stand in line, the first of them having asked in vain. -/
def twoInLine : Shift :=
  let asking := (((fresh "orders" 1 2).setLooks true 0).meet 0 .join).setLooks false 0
  (((asking.askInVain 0).setLooks true 1).meet 1 .join).setLooks false 1

theorem turns_twoInLine : Turns (fresh "orders" 1 2) twoInLine := by
  have first : Poll 0 (fresh "orders" 1 2)
      (((((fresh "orders" 1 2).setLooks true 0).meet 0 .join).setLooks false 0).askInVain 0) := by
    refine ⟨rfl, rfl, ?_, rfl, rfl, fun _ _ => rfl⟩
    exact ((Relation.ReflTransGen.single (.look rfl rfl)).tail (.overlook rfl rfl)).tail
      (.askInVain rfl rfl rfl)
  have second : Poll 1 (((((fresh "orders" 1 2).setLooks true 0).meet 0 .join).setLooks false
      0).askInVain 0) twoInLine := by
    refine ⟨rfl, rfl, ?_, rfl, rfl, nofun⟩
    exact (Relation.ReflTransGen.single (.look rfl rfl)).tail (.overlook rfl rfl)
  exact (Relation.ReflTransGen.single (.poll rfl first)).tail (.poll rfl second)

/-- The first of two workers has called the handler when the pool is stopped. -/
def stoppedAtWork : Shift :=
  let taking :=
    ((twoInLine.setLooks true 0).setLooks false 0).meet 0 (.item (.delivery { tag := 7 }))
  { taking.call 0 with pool := (taking.call 0).pool.stop }

private theorem turns_stoppedAtWork : Turns (fresh "orders" 1 2) stoppedAtWork := by
  have taken : Poll 0 twoInLine ((((twoInLine.setLooks true 0).setLooks false 0).meet 0
      (.item (.delivery { tag := 7 }))).call 0) := by
    refine ⟨rfl, rfl, ?_, rfl, rfl, nofun⟩
    exact ((Relation.ReflTransGen.single (.overlook rfl rfl)).tail (.ask _ rfl rfl rfl)).tail
      (.call rfl rfl rfl)
  exact (turns_twoInLine.tail (.poll rfl taken)).tail (.order (.stop _))

theorem handsOut_of_steps_stopped :
    Steps (fresh "orders" 1 2) stoppedAtWork ∧ stoppedAtWork.begun = [(0, { tag := 7 })] ∧
      stoppedAtWork.pool.worker 1 = .waiting ∧ stoppedAtWork.pool.isStopped = true ∧
      stoppedAtWork.HandsOut :=
  ⟨turns_stoppedAtWork.steps, rfl, rfl, rfl,
    handsOut_of_steps "orders" 1 2 turns_stoppedAtWork.steps⟩

end AmqpClient.Consumer.Shift
