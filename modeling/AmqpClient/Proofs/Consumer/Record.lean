import AmqpClient.Proofs.Consumer.Shift
import Mathlib.Data.List.Perm.Subperm

/-!
# What a shift leaves behind

The books of every worker balance: what it was given is what it has called the handler
for and what it holds in its hand, and what it has called the handler for is what has come
back and what is running. No step takes a delivery from one worker to another.
-/

set_option autoImplicit false

namespace AmqpClient.Consumer.Shift

section

variable {index other : Nat} {deliveries : List (Nat × Delivery)}

private theorem ofWorker_append (early late : List (Nat × Delivery)) :
    ofWorker index (early ++ late) = ofWorker index early ++ ofWorker index late :=
  List.filter_append ..

private theorem ofWorker_eq_self (own : ∀ pair ∈ deliveries, pair.1 = index) :
    ofWorker index deliveries = deliveries :=
  List.filter_eq_self.mpr fun pair member => decide_eq_true (own pair member)

private theorem ofWorker_eq_nil (own : ∀ pair ∈ deliveries, pair.1 = index)
    (apart : other ≠ index) :
    ofWorker other deliveries = [] := by
  refine List.filter_eq_nil_iff.mpr fun pair member => ?_
  rw [own pair member]
  simpa using Ne.symm apart

private theorem count_ofWorker (pair : Nat × Delivery) (deliveries : List (Nat × Delivery)) :
    (ofWorker pair.1 deliveries).count pair = deliveries.count pair :=
  List.count_filter (decide_eq_true rfl)

/-- Two lists of deliveries are the same up to order if every worker has the same in both. -/
theorem perm_of_ofWorker {early late : List (Nat × Delivery)}
    (same : ∀ index, ofWorker index early = ofWorker index late) : early.Perm late := by
  refine List.perm_iff_count.mpr fun pair => ?_
  rw [← count_ofWorker pair early, ← count_ofWorker pair late, same]

end

variable {shift after : Shift} {index other : Nat} {event : WorkerEvent}

private theorem mem_job {pair : Nat × Delivery} (member : pair ∈ shift.job index) :
    pair.1 = index := by
  obtain ⟨delivery, -, rfl⟩ := List.mem_map.mp member
  rfl

private theorem mem_inHand {pair : Nat × Delivery} (member : pair ∈ shift.inHand index) :
    pair.1 = index := by
  unfold inHand at member
  split at member
  · cases member
  · exact mem_job member

private theorem mem_running {pair : Nat × Delivery} (member : pair ∈ shift.running index) :
    pair.1 = index := by
  unfold running at member
  split at member
  · exact mem_job member
  · cases member

/-- Nobody waits with a delivery in hand that the handler was not called for. -/
theorem inHand_eq_nil (waits : shift.IsWaiting index) : shift.inHand index = [] := by
  unfold inHand
  split
  · rfl
  · next idle =>
      unfold IsWaiting at waits
      rw [Bool.eq_false_iff.mpr idle] at waits
      unfold job
      cases atPoint : shift.pool.worker index with
      | idle | waiting | returning | finished => rfl
      | handling delivery =>
          rw [atPoint] at waits
          cases waits

private theorem job_eq_nil_of_isOver (gone : (shift.pool.worker index).isOver = true) :
    shift.job index = [] := by
  unfold job
  cases atPoint : shift.pool.worker index with
  | finished => rfl
  | idle | waiting | handling | returning =>
      rw [atPoint] at gone
      cases gone

private theorem running_eq_nil_of_isOver (gone : (shift.pool.worker index).isOver = true) :
    shift.running index = [] := by
  unfold running
  rw [job_eq_nil_of_isOver gone, ite_self]

/-! ## What one step adds -/

/-- The account of a worker over a step, with the marks that the step adds. -/
structure Balances (index : Nat) (shift after : Shift) (marks : List Mark) : Prop where
  taken : shift.inHand index ++ ofWorker index (marks.filterMap Mark.taken?) =
    ofWorker index (marks.filterMap Mark.begun?) ++ after.inHand index
  begun : shift.running index ++ ofWorker index (marks.filterMap Mark.begun?) =
    ofWorker index (marks.filterMap Mark.ended?) ++ after.running index

/-- What the stream gives with an event. -/
def given (index : Nat) : WorkerEvent → List (Nat × Delivery)
  | .item (.delivery delivery) => [(index, delivery)]
  | _ => []

private theorem mem_given {pair : Nat × Delivery} (member : pair ∈ given index event) :
    pair.1 = index := by
  unfold given at member
  split at member
  · rw [List.mem_singleton.mp member]
  · cases member

private theorem given_eq_nil_of_answers {point : WorkerPoint} (answers : Answers point event) :
    given index event = [] := by
  cases answers <;> rfl

theorem filterMap_itemMarks (index : Nat) (event : WorkerEvent) :
    (itemMarks index event).filterMap Mark.taken? = given index event ∧
      (itemMarks index event).filterMap Mark.begun? = [] ∧
      (itemMarks index event).filterMap Mark.ended? = [] := by
  cases event with
  | item item => cases item <;> exact ⟨rfl, rfl, rfl⟩
  | join | stop | handled | settled | broke | abort => exact ⟨rfl, rfl, rfl⟩

theorem filterMap_began (deliveries : List (Nat × Delivery)) :
    (deliveries.map fun pair => Mark.began pair.1 pair.2).filterMap Mark.taken? = [] ∧
      (deliveries.map fun pair => Mark.began pair.1 pair.2).filterMap Mark.begun? = deliveries ∧
      (deliveries.map fun pair => Mark.began pair.1 pair.2).filterMap Mark.ended? = [] := by
  simp [List.filterMap_map, Function.comp_def, Mark.taken?, Mark.begun?, Mark.ended?]

theorem filterMap_ended (deliveries : List (Nat × Delivery)) :
    (deliveries.map fun pair => Mark.ended pair.1 pair.2).filterMap Mark.taken? = [] ∧
      (deliveries.map fun pair => Mark.ended pair.1 pair.2).filterMap Mark.begun? = [] ∧
      (deliveries.map fun pair => Mark.ended pair.1 pair.2).filterMap Mark.ended? = deliveries := by
  simp [List.filterMap_map, Function.comp_def, Mark.taken?, Mark.begun?, Mark.ended?]

/-- The account of a worker that a step leaves as it was. -/
theorem Balances.of_unchanged {marks : List Mark} (inHand : after.inHand index = shift.inHand index)
    (running : after.running index = shift.running index)
    (taken : ofWorker index (marks.filterMap Mark.taken?) = [])
    (begun : ofWorker index (marks.filterMap Mark.begun?) = [])
    (ended : ofWorker index (marks.filterMap Mark.ended?) = []) :
    Balances index shift after marks :=
  ⟨by rw [inHand, taken, begun, List.append_nil, List.nil_append],
    by rw [running, begun, ended, List.append_nil, List.nil_append]⟩

private theorem inHand_congr (worker : after.pool.worker index = shift.pool.worker index)
    (hand : (after.hands index).isCalling = (shift.hands index).isCalling) :
    after.inHand index = shift.inHand index := by
  rw [inHand, inHand, job, job, worker, hand]

private theorem running_congr (worker : after.pool.worker index = shift.pool.worker index)
    (hand : (after.hands index).isCalling = (shift.hands index).isCalling) :
    after.running index = shift.running index := by
  rw [running, running, job, job, worker, hand]

private theorem inHand_meet (meets : Meets (shift.pool.worker index) event) :
    (shift.meet index event).inHand index = given index event := by
  have moves := Pool.react_moves meets
  have alive := meets.isOver_eq_false
  have idle : ((shift.meet index event).hands index).isCalling = false := by
    rw [hands_meet_self]
  rw [inHand, idle, if_neg Bool.false_ne_true, job]
  change ((shift.pool.react index event).pool.worker index).handling?.toList.map _ = _
  generalize (shift.pool.react index event).next = next at moves
  generalize (shift.pool.react index event).pool = pool at moves
  cases moves with
  | join =>
      change ((shift.pool.moveTo .waiting index).worker index).handling?.toList.map _ = _
      rw [Pool.worker_moveTo_self _ alive]
      rfl
  | take =>
      rw [Pool.worker_moveTo_self]
      · rfl
      · exact alive
  | finish had answers =>
      rw [Pool.worker_moveTo_self _ alive, given_eq_nil_of_answers answers]
      rfl
  | giveBack =>
      rw [Pool.worker_moveTo_self _ alive]
      rfl
  | leave ended broken empty =>
      let gone := (shift.pool.leaveLine index).moveTo .finished index
      change (gone.worker index).handling?.toList.map _ = _
      rw [Pool.worker_moveTo_finished]
      unfold given
      split
      · next delivery => exact absurd rfl (empty delivery)
      · rfl

private theorem running_meet : (shift.meet index event).running index = [] := by
  rw [running, hands_meet_self]
  rfl

private theorem balances_meet (waits : shift.IsWaiting index)
    (meets : Meets (shift.pool.worker index) event) :
    Balances other shift (shift.meet index event)
      ((shift.running index).map (fun pair => .ended pair.1 pair.2) ++ itemMarks index event) := by
  obtain ⟨itemTaken, itemBegun, itemEnded⟩ := filterMap_itemMarks index event
  obtain ⟨endTaken, endBegun, endEnded⟩ := filterMap_ended (shift.running index)
  by_cases same : other = index
  · subst same
    constructor
    · rw [List.filterMap_append, List.filterMap_append, itemTaken, itemBegun, endTaken, endBegun,
        inHand_meet meets, inHand_eq_nil waits, List.nil_append, List.nil_append,
        ofWorker_eq_self fun _ => mem_given]
      rfl
    · rw [List.filterMap_append, List.filterMap_append, itemBegun, itemEnded, endBegun, endEnded,
        running_meet, List.append_nil, List.append_nil, List.append_nil,
        ofWorker_eq_self fun _ => mem_running]
      exact List.append_nil _
  · have worker := (Pool.react_moves meets).sharesWith.worker other same
    have hand :
        ((shift.meet index event).hands other).isCalling = (shift.hands other).isCalling := by
      rw [hands_meet_ne same]
    refine .of_unchanged (inHand_congr worker hand) (running_congr worker hand) ?_ ?_ ?_
    · rw [List.filterMap_append, itemTaken, endTaken, List.nil_append]
      exact ofWorker_eq_nil (fun _ => mem_given) same
    · rw [List.filterMap_append, itemBegun, endBegun]
      rfl
    · rw [List.filterMap_append, itemEnded, endEnded, List.append_nil]
      exact ofWorker_eq_nil (fun _ => mem_running) same

private theorem balances_call (idle : (shift.hands index).isCalling = false) :
    Balances other shift (shift.call index)
      ((shift.inHand index).map fun pair => .began pair.1 pair.2) := by
  obtain ⟨taken, begun, ended⟩ := filterMap_began (shift.inHand index)
  by_cases same : other = index
  · subst same
    have calling : ((shift.call other).hands other).isCalling = true := hands_call_self
    constructor
    · rw [taken, begun, ofWorker_eq_self fun _ => mem_inHand]
      rw [inHand, inHand, calling, if_pos rfl]
      rfl
    · rw [begun, ended, ofWorker_eq_self fun _ => mem_inHand]
      rw [running, running, inHand, calling, idle]
      exact List.nil_append _
  · have hand : ((shift.call index).hands other).isCalling = (shift.hands other).isCalling := by
      rw [hands_call_ne same]
    refine .of_unchanged (inHand_congr rfl hand) (running_congr rfl hand) ?_ ?_ ?_
    · rw [taken]
      rfl
    · rw [begun]
      exact ofWorker_eq_nil (fun _ => mem_inHand) same
    · rw [ended]
      rfl

private theorem Step.balances (step : Step shift after) (orderly : shift.IsOrderly) :
    ∃ marks, after.marks = shift.marks ++ marks ∧ ∀ index, Balances index shift after marks := by
  cases step with
  | act act =>
      obtain ⟨index, deed⟩ := act.deed orderly
      cases deed with
      | meet waits meets => exact ⟨_, List.append_assoc .., fun other => balances_meet waits meets⟩
      | setLooks =>
          refine ⟨[], (List.append_nil _).symm, fun other => .of_unchanged ?_ ?_ rfl rfl rfl⟩
          · exact inHand_congr rfl (isCalling_setLooks _)
          · exact running_congr rfl (isCalling_setLooks _)
      | askInVain => exact ⟨[.asked index], rfl, fun other => .of_unchanged rfl rfl rfl rfl rfl⟩
      | call _ idle => exact ⟨_, rfl, fun other => balances_call idle⟩
  | order order =>
      refine ⟨[], (List.append_nil _).symm, fun other => .of_unchanged ?_ ?_ rfl rfl rfl⟩
      · exact inHand_congr (order.worker other) rfl
      · exact running_congr (order.worker other) rfl

/-! ## The account of a whole shift -/

structure IsRecorded (shift : Shift) : Prop where
  taken : ∀ index,
    ofWorker index shift.taken = ofWorker index shift.begun ++ shift.inHand index
  begun : ∀ index,
    ofWorker index shift.begun = ofWorker index shift.ended ++ shift.running index

theorem isRecorded_fresh (queue : String) (stream count : Nat) :
    (fresh queue stream count).IsRecorded := by
  have free (index : Nat) : (fresh queue stream count).job index = [] := by
    rw [job, fresh, Pool.worker_spawn]
    split <;> rfl
  refine ⟨fun index => ?_, fun index => ?_⟩
  · rw [inHand, free, ite_self]
    rfl
  · rw [running, free, ite_self]
    rfl

private theorem ofWorker_filterMap (read : Mark → Option (Nat × Delivery)) {marks : List Mark}
    (written : after.marks = shift.marks ++ marks) :
    ofWorker index (after.marks.filterMap read) =
      ofWorker index (shift.marks.filterMap read) ++ ofWorker index (marks.filterMap read) := by
  rw [written, List.filterMap_append, ofWorker_append]

theorem IsRecorded.step (recorded : shift.IsRecorded) (orderly : shift.IsOrderly)
    (step : Step shift after) : after.IsRecorded := by
  obtain ⟨marks, written, balances⟩ := step.balances orderly
  refine ⟨fun index => ?_, fun index => ?_⟩
  · calc ofWorker index after.taken
        = ofWorker index shift.taken ++ ofWorker index (marks.filterMap Mark.taken?) :=
          ofWorker_filterMap Mark.taken? written
      _ = ofWorker index shift.begun ++
            (shift.inHand index ++ ofWorker index (marks.filterMap Mark.taken?)) := by
          rw [recorded.taken, List.append_assoc]
      _ = ofWorker index shift.begun ++ ofWorker index (marks.filterMap Mark.begun?) ++
            after.inHand index := by
          rw [(balances index).taken, List.append_assoc]
      _ = ofWorker index after.begun ++ after.inHand index :=
          congrArg (· ++ after.inHand index) (ofWorker_filterMap Mark.begun? written).symm
  · calc ofWorker index after.begun
        = ofWorker index shift.begun ++ ofWorker index (marks.filterMap Mark.begun?) :=
          ofWorker_filterMap Mark.begun? written
      _ = ofWorker index shift.ended ++
            (shift.running index ++ ofWorker index (marks.filterMap Mark.begun?)) := by
          rw [recorded.begun, List.append_assoc]
      _ = ofWorker index shift.ended ++ ofWorker index (marks.filterMap Mark.ended?) ++
            after.running index := by
          rw [(balances index).begun, List.append_assoc]
      _ = ofWorker index after.ended ++ after.running index :=
          congrArg (· ++ after.running index) (ofWorker_filterMap Mark.ended? written).symm

theorem Steps.isRecorded (steps : Steps shift after) (orderly : shift.IsOrderly)
    (recorded : shift.IsRecorded) : after.IsRecorded := by
  induction steps with
  | refl => exact recorded
  | tail early step recorded => exact recorded.step (Steps.isOrderly early orderly) step

/-! ## All workers together -/

theorem Step.length_workers (step : Step shift after) (orderly : shift.IsOrderly) :
    after.pool.workers.length = shift.pool.workers.length := by
  cases step with
  | act act =>
      obtain ⟨index, deed⟩ := act.deed orderly
      cases deed with
      | meet _ meets => exact (Pool.react_moves meets).sharesWith.length
      | setLooks | askInVain | call => rfl
  | order order => exact congrArg List.length order.sharesWith.1

/-- Who has ended has ended for good. -/
theorem Step.finished (step : Step shift after) (orderly : shift.IsOrderly)
    (gone : shift.pool.worker index = .finished) : after.pool.worker index = .finished := by
  cases step with
  | act act =>
      obtain ⟨worker, deed⟩ := act.deed orderly
      cases deed with
      | meet _ meets =>
          have apart : index ≠ worker := by
            rintro rfl
            have alive := meets.isOver_eq_false
            rw [gone] at alive
            cases alive
          exact ((Pool.react_moves meets).sharesWith.worker index apart).trans gone
      | setLooks | askInVain | call => exact gone
  | order order => exact (order.worker index).trans gone

theorem Step.isOver (step : Step shift after) (orderly : shift.IsOrderly)
    (gone : shift.pool.isOver = true) : after.pool.isOver = true := by
  refine Pool.isOver_iff.mpr fun index => ?_
  have finished := WorkerPoint.eq_finished (Pool.isOver_iff.mp gone index)
  rw [step.finished orderly finished]
  rfl

theorem Steps.length_workers (steps : Steps shift after) (orderly : shift.IsOrderly) :
    after.pool.workers.length = shift.pool.workers.length := by
  induction steps with
  | refl => rfl
  | tail early step same => exact (step.length_workers (Steps.isOrderly early orderly)).trans same

/-- What runs on any worker. -/
def allRunning (shift : Shift) : List (Nat × Delivery) :=
  (List.range shift.pool.workers.length).flatMap shift.running

private theorem ofWorker_allRunning (index : Nat) :
    ofWorker index shift.allRunning = shift.running index := by
  have own (workers : List Nat) (nodup : workers.Nodup) :
      ofWorker index (workers.flatMap shift.running) =
        if index ∈ workers then shift.running index else [] := by
    induction workers with
    | nil => rfl
    | cons worker workers ih =>
        have ⟨absent, nodup⟩ := List.nodup_cons.mp nodup
        rw [List.flatMap_cons, ofWorker_append, ih nodup]
        by_cases same : index = worker
        · subst same
          rw [ofWorker_eq_self fun _ => mem_running, if_neg absent, List.append_nil,
            if_pos List.mem_cons_self]
        · rw [ofWorker_eq_nil (fun _ => mem_running) same, List.nil_append]
          simp [same]
  rw [allRunning, own _ List.nodup_range]
  split
  · rfl
  · next outside =>
      have gone := shift.pool.worker_eq_finished index
        (Nat.le_of_not_lt fun inside => outside (List.mem_range.mpr inside))
      exact (running_eq_nil_of_isOver (by rw [gone]; rfl)).symm

theorem allRunning_eq_nil (gone : shift.pool.isOver = true) : shift.allRunning = [] :=
  List.flatMap_eq_nil_iff.mpr fun index _ =>
    running_eq_nil_of_isOver (Pool.isOver_iff.mp gone index)

private theorem length_running_le : (shift.running index).length ≤ 1 := by
  unfold running job
  split
  · cases (shift.pool.worker index).handling? with
    | none => exact Nat.zero_le 1
    | some delivery => exact Nat.le_refl 1
  · exact Nat.zero_le 1

theorem length_allRunning_le : shift.allRunning.length ≤ shift.pool.workers.length := by
  have ofWorkers (workers : List Nat) :
      (workers.flatMap shift.running).length ≤ workers.length := by
    induction workers with
    | nil => exact Nat.le_refl 0
    | cons worker workers ih =>
        have own : (shift.running worker).length ≤ 1 := length_running_le
        rw [List.flatMap_cons, List.length_append, List.length_cons]
        omega
  exact Nat.le_trans (ofWorkers _) (Nat.le_of_eq List.length_range)

namespace IsRecorded

/-- While nobody holds a delivery in hand, the handler has been called for exactly what the
stream gave. -/
theorem begun_perm_taken (recorded : shift.IsRecorded) (waits : ∀ index, shift.IsWaiting index) :
    shift.begun.Perm shift.taken := by
  refine perm_of_ofWorker fun index => ?_
  rw [recorded.taken, inHand_eq_nil (waits index), List.append_nil]

/-- The handler is called for nothing that the stream did not give. -/
theorem begun_subperm_taken (recorded : shift.IsRecorded) : shift.begun.Subperm shift.taken := by
  refine List.subperm_ext_iff.mpr fun pair _ => ?_
  rw [← count_ofWorker pair shift.begun, ← count_ofWorker pair shift.taken, recorded.taken,
    List.count_append]
  exact Nat.le_add_right _ _

theorem begun_perm_ended (recorded : shift.IsRecorded) :
    shift.begun.Perm (shift.ended ++ shift.allRunning) := by
  refine perm_of_ofWorker fun index => ?_
  rw [ofWorker_append, ofWorker_allRunning, recorded.begun]

end IsRecorded

end AmqpClient.Consumer.Shift
