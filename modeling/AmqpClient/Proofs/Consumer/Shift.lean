import AmqpClient.Proofs.Consumer.Pool
import Mathlib.Logic.Function.Basic
import Mathlib.Logic.Relation

/-!
# A pool at work

The workers of a pool take their steps in any order. Between the steps the pool may be
stopped, and a cancelled pool cuts its workers off wherever they wait. The stream gives
anything when it is asked, or nothing yet; a handler returns anything, breaks down or
never returns. What is left behind is a record of what each worker asked for, was given
and did.
-/

set_option autoImplicit false

namespace AmqpClient.Consumer

namespace Shift

inductive Mark where
  /-- The stream was asked for its next item. -/
  | asked (worker : Nat)
  | took (worker : Nat) (item : StreamItem)
  /-- The handler was called. -/
  | began (worker : Nat) (delivery : Delivery)
  /-- The handler returned, broke down or was cut off. -/
  | ended (worker : Nat) (delivery : Delivery)

/-- How far a worker has come at its point. -/
structure Hand where
  looks : Bool := true
  isCalling : Bool := false

namespace Mark

/-- Whether it lies between a worker and the stream. -/
def pulls : Mark → Bool
  | .asked _ | .took .. => true
  | .began .. | .ended .. => false

def taken? : Mark → Option (Nat × Delivery)
  | .took worker (.delivery delivery) => some (worker, delivery)
  | _ => none

def begun? : Mark → Option (Nat × Delivery)
  | .began worker delivery => some (worker, delivery)
  | _ => none

def ended? : Mark → Option (Nat × Delivery)
  | .ended worker delivery => some (worker, delivery)
  | _ => none

end Mark

/-- The part of some deliveries that one worker has. -/
def ofWorker (index : Nat) (deliveries : List (Nat × Delivery)) : List (Nat × Delivery) :=
  deliveries.filter fun pair => pair.1 = index

end Shift

structure Shift where
  pool : Pool
  hands : Nat → Shift.Hand := fun _ => {}
  marks : List Shift.Mark := []

namespace Shift

def fresh (queue : String) (stream count : Nat) : Shift :=
  { pool := Pool.spawn queue stream count }

/-! ## What the record says -/

def pulls (shift : Shift) : List Mark :=
  shift.marks.filter Mark.pulls

/-- The deliveries that the stream gave, with the workers that it gave them to. -/
def taken (shift : Shift) : List (Nat × Delivery) :=
  shift.marks.filterMap Mark.taken?

def begun (shift : Shift) : List (Nat × Delivery) :=
  shift.marks.filterMap Mark.begun?

def ended (shift : Shift) : List (Nat × Delivery) :=
  shift.marks.filterMap Mark.ended?

/-! ## Where a worker stands -/

/-- The delivery that a worker is handling, if it is. -/
def job (index : Nat) (shift : Shift) : List (Nat × Delivery) :=
  (shift.pool.worker index).handling?.toList.map fun delivery => (index, delivery)

/-- What a worker has taken and not called the handler for. -/
def inHand (index : Nat) (shift : Shift) : List (Nat × Delivery) :=
  if (shift.hands index).isCalling then [] else shift.job index

/-- What a worker has called the handler for that has not come back. -/
def running (index : Nat) (shift : Shift) : List (Nat × Delivery) :=
  if (shift.hands index).isCalling then shift.job index else []

/-- A worker can wait in line and for what it has called, and nowhere else. -/
def IsWaiting (index : Nat) (shift : Shift) : Prop :=
  (shift.hands index).isCalling = (shift.pool.worker index).delivery?.isSome

/-! ## What a worker does -/

def setLooks (looks : Bool) (index : Nat) (shift : Shift) : Shift :=
  { shift with
    hands := Function.update shift.hands index { shift.hands index with looks } }

def itemMarks (index : Nat) : WorkerEvent → List Mark
  | .item item => [.asked index, .took index item]
  | _ => []

def meet (index : Nat) (event : WorkerEvent) (shift : Shift) : Shift :=
  let reaction := shift.pool.react index event
  { pool := reaction.pool
    hands := Function.update shift.hands index { looks := reaction.next = .await }
    marks :=
      shift.marks ++ (shift.running index).map (fun pair => .ended pair.1 pair.2) ++
        itemMarks index event }

def askInVain (index : Nat) (shift : Shift) : Shift :=
  { shift with marks := shift.marks ++ [.asked index] }

/-- Calls the handler, or the broker for a delivery that is given back. -/
def call (index : Nat) (shift : Shift) : Shift :=
  { shift with
    hands := Function.update shift.hands index { shift.hands index with isCalling := true }
    marks := shift.marks ++ (shift.inHand index).map fun pair => .began pair.1 pair.2 }

/-- What a worker does by itself while it is polled. -/
inductive Work (index : Nat) : Shift → Shift → Prop where
  | look {shift : Shift} {event : WorkerEvent} :
      (shift.hands index).looks = true → shift.pool.interrupt? index = some event →
      Work index shift (shift.meet index event)
  | overlook {shift : Shift} :
      (shift.hands index).looks = true → shift.pool.interrupt? index = none →
      Work index shift (shift.setLooks false index)
  | ask {shift : Shift} (item : StreamItem) :
      (shift.hands index).looks = false → shift.pool.worker index = .waiting →
      shift.pool.isFirst index = true → Work index shift (shift.meet index (.item item))
  | askInVain {shift : Shift} :
      (shift.hands index).looks = false → shift.pool.worker index = .waiting →
      shift.pool.isFirst index = true → Work index shift (shift.askInVain index)
  | call {shift : Shift} {delivery : Delivery} :
      (shift.hands index).looks = false → (shift.hands index).isCalling = false →
      (shift.pool.worker index).delivery? = some delivery →
      Work index shift (shift.call index)
  | hear {shift : Shift} {event : WorkerEvent} :
      (shift.hands index).looks = false → (shift.hands index).isCalling = true →
      Answers (shift.pool.worker index) event → Work index shift (shift.meet index event)

/-- What is done to a pool from outside. -/
inductive Order : Pool → Pool → Prop where
  | stop (pool : Pool) : Order pool pool.stop
  | cancel (pool : Pool) : Order pool pool.cancel
  /-- A break-down has been reported. -/
  | report (pool : Pool) : Order pool { pool with broken := pool.broken.drop 1 }

/-- One step of one worker. -/
inductive Act : Shift → Shift → Prop where
  | work {shift after : Shift} {index : Nat} : Work index shift after → Act shift after
  | poll {shift : Shift} {index : Nat} :
      shift.IsWaiting index → Act shift (shift.setLooks true index)
  | abort {shift : Shift} {index : Nat} :
      shift.pool.isCancelled = true → shift.IsWaiting index →
      (shift.pool.worker index).isOver = false → Act shift (shift.meet index .abort)

inductive Step : Shift → Shift → Prop where
  | act {shift after : Shift} : Act shift after → Step shift after
  | order {shift : Shift} {pool : Pool} :
      Order shift.pool pool → Step shift { shift with pool }

abbrev Steps : Shift → Shift → Prop :=
  Relation.ReflTransGen Step

/-! ## Workers in order -/

structure IsOrderly (shift : Shift) : Prop where
  pool : shift.pool.IsOrderly
  busy : ∀ index, (shift.hands index).isCalling = true →
    (shift.pool.worker index).delivery?.isSome = true
  rested : ∀ index, (shift.hands index).looks = true → shift.IsWaiting index

section

variable {shift after : Shift} {index other : Nat} {event : WorkerEvent}

theorem isOrderly_fresh (queue : String) (stream count : Nat) :
    (fresh queue stream count).IsOrderly := by
  refine ⟨Pool.isOrderly_spawn queue stream count, nofun, fun index _ => ?_⟩
  unfold IsWaiting
  have free : ((fresh queue stream count).pool.worker index).delivery? = none := by
    rw [fresh, Pool.worker_spawn]
    split <;> rfl
  rw [free]
  rfl

theorem IsOrderly.isWaiting_of_waiting (orderly : shift.IsOrderly)
    (atPoint : shift.pool.worker index = .waiting) : shift.IsWaiting index := by
  unfold IsWaiting
  cases calling : (shift.hands index).isCalling with
  | false => rw [atPoint]; rfl
  | true =>
      have busy := orderly.busy index calling
      rw [atPoint] at busy
      cases busy

theorem hands_meet_self :
    (shift.meet index event).hands index =
      { looks := (shift.pool.react index event).next = .await } :=
  Function.update_self ..

theorem hands_meet_ne (apart : other ≠ index) :
    (shift.meet index event).hands other = shift.hands other :=
  Function.update_of_ne apart ..

theorem looks_setLooks (looks : Bool) :
    ((shift.setLooks looks index).hands index).looks = looks := by
  simp [setLooks]

theorem isCalling_setLooks (looks : Bool) :
    ((shift.setLooks looks index).hands other).isCalling = (shift.hands other).isCalling := by
  by_cases same : other = index
  · subst same
    simp [setLooks]
  · simp [setLooks, Function.update_of_ne same]

theorem hands_call_self : ((shift.call index).hands index).isCalling = true := by
  simp [call]

theorem hands_call_ne (apart : other ≠ index) :
    (shift.call index).hands other = shift.hands other :=
  Function.update_of_ne apart ..

/-- What one worker can do. It waits whenever an event meets it. -/
inductive Deed (index : Nat) (shift : Shift) : Shift → Prop where
  | meet {event : WorkerEvent} :
      shift.IsWaiting index → Meets (shift.pool.worker index) event →
      Deed index shift (shift.meet index event)
  | setLooks {looks : Bool} :
      (looks = true → shift.IsWaiting index) → Deed index shift (shift.setLooks looks index)
  | askInVain : Deed index shift (shift.askInVain index)
  | call :
      (shift.hands index).looks = false → (shift.hands index).isCalling = false →
      (shift.pool.worker index).delivery?.isSome = true → Deed index shift (shift.call index)

theorem Work.deed (work : Work index shift after) (orderly : shift.IsOrderly) :
    Deed index shift after := by
  cases work with
  | look looks found =>
      exact .meet (orderly.rested index looks) (Pool.meets_of_interrupt? found).1
  | overlook => exact .setLooks nofun
  | ask item overlooked atPoint =>
      exact .meet (orderly.isWaiting_of_waiting atPoint) (atPoint ▸ .item item)
  | askInVain => exact .askInVain
  | call overlooked idle had => exact .call overlooked idle (by rw [had]; rfl)
  | hear overlooked calling answers =>
      exact .meet (calling.trans (orderly.busy index calling).symm) (.answer answers)

theorem Act.deed (act : Act shift after) (orderly : shift.IsOrderly) :
    ∃ index, Deed index shift after := by
  cases act with
  | work work => exact ⟨_, work.deed orderly⟩
  | poll waits => exact ⟨_, .setLooks fun _ => waits⟩
  | abort cancelled waits alive => exact ⟨_, .meet waits (.abort alive)⟩

theorem IsOrderly.meet (orderly : shift.IsOrderly) (meets : Meets (shift.pool.worker index) event) :
    (shift.meet index event).IsOrderly := by
  have moves := Pool.react_moves meets
  refine ⟨moves.isOrderly orderly.pool, fun other calling => ?_, fun other looks => ?_⟩
  · by_cases same : other = index
    · subst same
      rw [hands_meet_self] at calling
      cases calling
    · rw [hands_meet_ne same] at calling
      change ((shift.pool.react index event).pool.worker other).delivery?.isSome = true
      rw [moves.sharesWith.worker other same]
      exact orderly.busy other calling
  · unfold IsWaiting
    change _ = ((shift.pool.react index event).pool.worker other).delivery?.isSome
    by_cases same : other = index
    · subst same
      rw [hands_meet_self] at looks ⊢
      have alive := meets.isOver_eq_false
      generalize (shift.pool.react other event).next = next at moves looks
      generalize (shift.pool.react other event).pool = pool at moves
      cases moves with
      | join =>
          change false = ((shift.pool.moveTo .waiting other).worker other).delivery?.isSome
          rw [Pool.worker_moveTo_self _ alive]
          rfl
      | finish =>
          rw [Pool.worker_moveTo_self _ alive]
          rfl
      | take | giveBack | leave => cases looks
    · rw [hands_meet_ne same] at looks ⊢
      rw [moves.sharesWith.worker other same]
      exact orderly.rested other looks

theorem IsOrderly.setLooks (orderly : shift.IsOrderly) {looks : Bool}
    (waits : looks = true → shift.IsWaiting index) : (shift.setLooks looks index).IsOrderly := by
  refine ⟨orderly.pool, fun other calling => ?_, fun other looking => ?_⟩
  · rw [isCalling_setLooks] at calling
    exact orderly.busy other calling
  · unfold IsWaiting
    rw [isCalling_setLooks]
    by_cases same : other = index
    · subst same
      exact waits (by simpa [Shift.setLooks] using looking)
    · refine orderly.rested other ?_
      simpa [Shift.setLooks, Function.update_of_ne same] using looking

theorem IsOrderly.call (orderly : shift.IsOrderly) (overlooked : (shift.hands index).looks = false)
    (had : (shift.pool.worker index).delivery?.isSome = true) : (shift.call index).IsOrderly := by
  refine ⟨orderly.pool, fun other calling => ?_, fun other looking => ?_⟩
  · by_cases same : other = index
    · exact same ▸ had
    · rw [hands_call_ne same] at calling
      exact orderly.busy other calling
  · by_cases same : other = index
    · subst same
      simp [Shift.call, overlooked] at looking
    · unfold IsWaiting
      rw [hands_call_ne same] at looking ⊢
      exact orderly.rested other looking

theorem Order.sharesWith {pool after : Pool} (order : Order pool after) :
    after.workers = pool.workers ∧ after.line = pool.line := by
  cases order <;> exact ⟨rfl, rfl⟩

theorem Order.worker {pool after : Pool} (order : Order pool after) (index : Nat) :
    after.worker index = pool.worker index := by
  rw [Pool.worker, order.sharesWith.1, Pool.worker]

theorem Step.isOrderly (step : Step shift after) (orderly : shift.IsOrderly) : after.IsOrderly := by
  cases step with
  | act act =>
      obtain ⟨index, deed⟩ := act.deed orderly
      cases deed with
      | meet _ meets => exact orderly.meet meets
      | setLooks waits => exact orderly.setLooks waits
      | askInVain => exact ⟨orderly.pool, orderly.busy, orderly.rested⟩
      | call overlooked _ had => exact orderly.call overlooked had
  | order order =>
      refine ⟨⟨?_, fun index => ?_⟩, fun index calling => ?_, fun index looks => ?_⟩
      · rw [order.sharesWith.2]
        exact orderly.pool.nodup
      · rw [order.sharesWith.2, order.worker]
        exact orderly.pool.waits index
      · rw [order.worker]
        exact orderly.busy index calling
      · change _ = (Pool.worker _ index).delivery?.isSome
        rw [order.worker]
        exact orderly.rested index looks

theorem Steps.isOrderly (steps : Steps shift after) (orderly : shift.IsOrderly) :
    after.IsOrderly := by
  induction steps with
  | refl => exact orderly
  | tail _ step orderly => exact step.isOrderly orderly

end

end Shift

end AmqpClient.Consumer
