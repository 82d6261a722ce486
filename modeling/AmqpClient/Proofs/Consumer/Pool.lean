import AmqpClient.Consumer.Pool

/-!
# What one event does to a pool

A worker changes its own place only. It joins the line at its end, leaves the line with
an item or for good, and works outside the line on what it has taken.
-/

set_option autoImplicit false

namespace AmqpClient.Consumer

namespace WorkerPoint

/-- The delivery that the handler is given. -/
def handling? : WorkerPoint → Option Delivery
  | .handling delivery => some delivery
  | .idle | .waiting | .returning _ | .finished => none

theorem eq_finished {point : WorkerPoint} (gone : point.isOver = true) : point = .finished := by
  cases point with
  | finished => rfl
  | idle | waiting | handling | returning => cases gone

end WorkerPoint

/-- What may come back from what a worker has called: the handler, or the broker. -/
inductive Answers : WorkerPoint → WorkerEvent → Prop where
  | handled {delivery : Delivery} (result : Except ClientError Unit) (isSettled : Bool) :
      Answers (.handling delivery) (.handled result isSettled)
  | settled {delivery : Delivery} (result : Except ClientError Unit) :
      Answers (.returning delivery) (.settled result)
  | broke {point : WorkerPoint} {delivery : Delivery} (details : String) :
      point.delivery? = some delivery → Answers point (.broke details)

/-- Whether an event can meet a worker. -/
inductive Meets : WorkerPoint → WorkerEvent → Prop where
  | join : Meets .idle .join
  | stopIdle : Meets .idle .stop
  | stopWaiting : Meets .waiting .stop
  | item (item : StreamItem) : Meets .waiting (.item item)
  | answer {point : WorkerPoint} {event : WorkerEvent} : Answers point event → Meets point event
  | abort {point : WorkerPoint} : point.isOver = false → Meets point .abort

theorem Meets.isOver_eq_false {point : WorkerPoint} {event : WorkerEvent}
    (meets : Meets point event) : point.isOver = false := by
  cases meets with
  | abort alive => exact alive
  | answer answers =>
      cases answers with
      | broke details had => cases point <;> first | rfl | cases had
      | handled | settled => rfl
  | join | stopIdle | stopWaiting | item => rfl

namespace Pool

section

variable (pool : Pool) (point : WorkerPoint) (index other : Nat)

private theorem worker_moveTo :
    (pool.moveTo point index).worker other =
      if other = index ∧ index < pool.workers.length then point else pool.worker other := by
  simp only [worker, moveTo, List.getD_eq_getElem?_getD, List.getElem?_set]
  by_cases same : index = other
  · subst same
    by_cases inside : index < pool.workers.length <;> simp [inside]
  · simp [same, Ne.symm same]

theorem worker_eq_finished (outside : pool.workers.length ≤ index) :
    pool.worker index = .finished := by
  simp [worker, outside]

private theorem length_workers_moveTo :
    (pool.moveTo point index).workers.length = pool.workers.length := by
  simp [moveTo]

private theorem mem_leaveLine :
    other ∈ (pool.leaveLine index).line ↔ other ∈ pool.line ∧ other ≠ index := by
  simp [leaveLine]

end

variable {pool : Pool} {index other : Nat}

theorem lt_of_isOver_eq_false (alive : (pool.worker index).isOver = false) :
    index < pool.workers.length := by
  refine Nat.lt_of_not_le fun outside => ?_
  rw [pool.worker_eq_finished index outside] at alive
  cases alive

theorem isOver_iff : pool.isOver = true ↔ ∀ index, (pool.worker index).isOver = true := by
  rw [isOver, List.all_eq_true]
  constructor
  · intro all index
    by_cases inside : index < pool.workers.length
    · have same : pool.worker index = pool.workers[index] := by simp [worker, inside]
      rw [same]
      exact all _ (List.getElem_mem inside)
    · rw [pool.worker_eq_finished index (Nat.le_of_not_lt inside)]
      rfl
  · intro all point member
    obtain ⟨index, inside, rfl⟩ := List.getElem_of_mem member
    have same : pool.worker index = pool.workers[index] := by simp [worker, inside]
    rw [← same]
    exact all index

/-- What an event does to a pool, and how its worker goes on. -/
inductive Moves (pool : Pool) (index : Nat) : WorkerEvent → Pool → WorkerNext → Prop where
  | join : pool.worker index = .idle →
      Moves pool index .join { pool.moveTo .waiting index with line := pool.line ++ [index] }
        .await
  | take {delivery : Delivery} : pool.worker index = .waiting →
      Moves pool index (.item (.delivery delivery))
        ((pool.leaveLine index).moveTo (.handling delivery) index) .proceed
  /-- The delivery was dealt with, by the handler or by the worker itself. -/
  | finish {event : WorkerEvent} {delivery : Delivery} :
      (pool.worker index).delivery? = some delivery → Answers (pool.worker index) event →
      Moves pool index event (pool.moveTo .idle index) .await
  | giveBack {delivery : Delivery} {error : ClientError} :
      pool.worker index = .handling delivery →
      Moves pool index (.handled (.error error) false) (pool.moveTo (.returning delivery) index)
        .proceed
  | leave {event : WorkerEvent} (ended : CloseCell) (broken : List String) :
      (∀ delivery, event ≠ .item (.delivery delivery)) →
      Moves pool index event
        { (pool.leaveLine index).moveTo .finished index with ended, broken } .proceed

theorem react_moves {event : WorkerEvent} (meets : Meets (pool.worker index) event) :
    Moves pool index event (pool.react index event).pool (pool.react index event).next := by
  have leave (ended : CloseCell) (broken : List String)
      (empty : ∀ delivery, event ≠ .item (.delivery delivery)) :
      Moves pool index event
        { (pool.leaveLine index).moveTo .finished index with ended, broken } .proceed :=
    .leave ended broken empty
  generalize atPoint : pool.worker index = point at meets
  cases meets with
  | join =>
      simp only [react, atPoint]
      exact .join atPoint
  | stopIdle | stopWaiting =>
      simp only [react, atPoint]
      exact leave _ _ nofun
  | item item =>
      simp only [react, atPoint]
      cases item with
      | delivery delivery => exact .take atPoint
      | failure | ended | overrun => exact leave _ _ nofun
  | abort alive =>
      unfold react
      rw [atPoint]
      cases point with
      | finished => cases alive
      | idle | waiting | handling | returning => exact leave _ _ nofun
  | answer answers =>
      have answered := answers
      cases answers with
      | handled result isSettled =>
          simp only [react, atPoint]
          have finish : Moves pool index (.handled result isSettled) (pool.moveTo .idle index)
              .await :=
            .finish (by rw [atPoint]; rfl) (atPoint ▸ answered)
          cases result with
          | ok => exact finish
          | error error =>
              cases isSettled with
              | true => exact finish
              | false => exact .giveBack atPoint
      | settled result =>
          simp only [react, atPoint]
          have finish : Moves pool index (.settled result) (pool.moveTo .idle index) .await :=
            .finish (by rw [atPoint]; rfl) (atPoint ▸ answered)
          cases result <;> exact finish
      | broke details had =>
          unfold react
          rw [atPoint]
          cases point with
          | handling | returning => exact leave _ _ nofun
          | idle | waiting | finished => cases had

/-- What an event leaves as it was. -/
structure SharesWith (index : Nat) (pool after : Pool) : Prop where
  worker : ∀ other, other ≠ index → after.worker other = pool.worker other
  length : after.workers.length = pool.workers.length
  isStopped : after.isStopped = pool.isStopped
  isCancelled : after.isCancelled = pool.isCancelled

/-- The line holds exactly the workers that wait, each once. -/
structure IsOrderly (pool : Pool) : Prop where
  nodup : pool.line.Nodup
  waits : ∀ index, index ∈ pool.line ↔ pool.worker index = .waiting

section

variable {after : Pool} {event : WorkerEvent} {next : WorkerNext}

theorem worker_moveTo_self (point : WorkerPoint) (alive : (pool.worker index).isOver = false) :
    (pool.moveTo point index).worker index = point := by
  rw [worker_moveTo, if_pos ⟨rfl, lt_of_isOver_eq_false alive⟩]

private theorem worker_moveTo_ne (point : WorkerPoint) (apart : other ≠ index) :
    (pool.moveTo point index).worker other = pool.worker other := by
  rw [worker_moveTo, if_neg fun same => apart same.1]

theorem worker_moveTo_finished : (pool.moveTo .finished index).worker index = .finished := by
  rw [worker_moveTo]
  split
  · rfl
  · next outside =>
      exact pool.worker_eq_finished index (Nat.le_of_not_lt fun inside => outside ⟨rfl, inside⟩)

theorem Moves.sharesWith (moves : Moves pool index event after next) :
    SharesWith index pool after := by
  cases moves with
  | join | take | finish | giveBack | leave =>
      exact ⟨fun other apart => worker_moveTo_ne _ apart, length_workers_moveTo .., rfl, rfl⟩

/-- A worker that is not in line and does not join it leaves the line in order. -/
theorem IsOrderly.moveTo (orderly : pool.IsOrderly) {point : WorkerPoint}
    (busy : pool.worker index ≠ .waiting) (stays : point ≠ .waiting) :
    (pool.moveTo point index).IsOrderly := by
  refine ⟨orderly.nodup, fun other => ?_⟩
  change other ∈ pool.line ↔ _
  rw [orderly.waits, worker_moveTo]
  split
  · next same =>
      rw [same.1]
      exact ⟨fun waits => absurd waits busy, fun waits => absurd waits stays⟩
  · rfl

theorem IsOrderly.leaveLine (orderly : pool.IsOrderly) {point : WorkerPoint}
    (stays : point ≠ .waiting) : ((pool.leaveLine index).moveTo point index).IsOrderly := by
  refine ⟨orderly.nodup.filter _, fun other => ?_⟩
  change other ∈ (pool.leaveLine index).line ↔ _
  rw [mem_leaveLine, orderly.waits]
  by_cases same : other = index
  · subst same
    rw [worker_moveTo]
    split
    · exact ⟨fun both => absurd rfl both.2, fun waits => absurd waits stays⟩
    · next outside =>
        change _ ↔ pool.worker other = .waiting
        rw [pool.worker_eq_finished other (Nat.le_of_not_lt fun inside => outside ⟨rfl, inside⟩)]
        exact ⟨fun both => absurd rfl both.2, nofun⟩
  · rw [worker_moveTo_ne _ same]
    exact ⟨And.left, fun waits => ⟨waits, same⟩⟩

theorem Moves.isOrderly (moves : Moves pool index event after next) (orderly : pool.IsOrderly) :
    after.IsOrderly := by
  cases moves with
  | join atPoint =>
      have alive : (pool.worker index).isOver = false := by rw [atPoint]; rfl
      have absent : index ∉ pool.line := fun member => by
        have waits := (orderly.waits index).mp member
        rw [atPoint] at waits
        cases waits
      refine ⟨List.nodup_append.mpr ⟨orderly.nodup, by simp, ?_⟩, fun other => ?_⟩
      · intro other member last isLast same
        rw [same, List.mem_singleton.mp isLast] at member
        exact absent member
      · change other ∈ pool.line ++ [index] ↔ (pool.moveTo .waiting index).worker other = .waiting
        by_cases same : other = index
        · subst same
          simp [worker_moveTo_self _ alive]
        · rw [worker_moveTo_ne _ same, ← orderly.waits]
          simp [same]
  | take => exact orderly.leaveLine nofun
  | finish had =>
      refine orderly.moveTo ?_ nofun
      intro waits
      rw [waits] at had
      cases had
  | giveBack atPoint =>
      refine orderly.moveTo ?_ nofun
      rw [atPoint]
      nofun
  | leave ended broken =>
      have left : ((pool.leaveLine index).moveTo .finished index).IsOrderly :=
        orderly.leaveLine nofun
      exact ⟨left.nodup, left.waits⟩

end

/-- What an interrupt says of the pool and of its worker. -/
theorem meets_of_interrupt? {event : WorkerEvent} (found : pool.interrupt? index = some event) :
    Meets (pool.worker index) event ∧
      (pool.isStopped = true ∧ event = .stop ∨ pool.isStopped = false ∧ event = .join) := by
  unfold interrupt? at found
  cases atPoint : pool.worker index with
  | handling | returning | finished =>
      rw [atPoint] at found
      cases found
  | idle =>
      rw [atPoint] at found
      cases stopped : pool.isStopped with
      | true =>
          rw [stopped] at found
          cases found
          exact ⟨.stopIdle, .inl ⟨rfl, rfl⟩⟩
      | false =>
          rw [stopped] at found
          cases found
          exact ⟨.join, .inr ⟨rfl, rfl⟩⟩
  | waiting =>
      rw [atPoint] at found
      cases stopped : pool.isStopped with
      | true =>
          rw [stopped] at found
          cases found
          exact ⟨.stopWaiting, .inl ⟨rfl, rfl⟩⟩
      | false =>
          rw [stopped] at found
          cases found

theorem worker_react_stop (meets : Meets (pool.worker index) .stop) :
    (pool.react index .stop).pool.worker index = .finished := by
  generalize atPoint : pool.worker index = point at meets
  cases meets with
  | stopIdle | stopWaiting =>
      simp only [react, atPoint]
      exact worker_moveTo_finished
  | answer answers => cases answers

theorem worker_spawn (queue : String) (stream count : Nat) :
    (Pool.spawn queue stream count).worker index =
      if index < max count 1 then .idle else .finished := by
  simp only [worker, spawn, List.getD_eq_getElem?_getD, List.getElem?_replicate]
  split <;> rfl

theorem isOrderly_spawn (queue : String) (stream count : Nat) :
    (Pool.spawn queue stream count).IsOrderly := by
  refine ⟨List.nodup_nil, fun index => ?_⟩
  rw [worker_spawn]
  constructor
  · exact fun member => absurd member List.not_mem_nil
  · split <;> nofun

end Pool

end AmqpClient.Consumer
