import AmqpClient.Proofs.Consumer.HandingOut

/-!
# Asking a stream after its end

The worker that meets the end of the stream leaves, and the next in line takes its place
before the pool is stopped. So the stream is asked again unless the stop mark or the
cancellation comes first, or nobody is left. A worker that is alone leaves nobody behind.
-/

set_option autoImplicit false

namespace AmqpClient.Consumer

private theorem Pool.exists_answer {pool : Pool} {index : Nat} {delivery : Delivery}
    (had : (pool.worker index).delivery? = some delivery) :
    ∃ event, Answers (pool.worker index) event ∧
      (pool.react index event).pool = pool.moveTo .idle index ∧
      (pool.react index event).next = .await := by
  unfold react
  cases atPoint : pool.worker index with
  | idle | waiting | finished =>
      rw [atPoint] at had
      cases had
  | handling delivery => exact ⟨.handled (.ok ()) false, .handled _ _, rfl, rfl⟩
  | returning delivery => exact ⟨.settled (.ok ()), .settled _, rfl, rfl⟩

namespace Shift

def HasEnded (shift : Shift) : Prop :=
  ∃ worker, Mark.took worker .ended ∈ shift.marks

/-- Whatever happens from now on, the stream is not asked. -/
def AsksNoMore (shift : Shift) : Prop :=
  ∀ later, Turns shift later → later.pulls = shift.pulls

section

variable {shift after : Shift} {index other : Nat}

/-! ## When nothing is asked -/

theorem Turn.cutOff (turn : Turn shift after) (cancelled : shift.pool.isCancelled = true) :
    after.pulls = shift.pulls ∧ after.pool.isCancelled = true := by
  cases turn with
  | poll kept =>
      rw [cancelled] at kept
      cases kept
  | abort cancelled waits alive =>
      refine ⟨by rw [pulls_meet]; exact List.append_nil _, ?_⟩
      exact (Pool.react_moves (.abort alive)).sharesWith.isCancelled.trans cancelled
  | order order =>
      refine ⟨rfl, ?_⟩
      cases order with
      | cancel => rfl
      | stop | report => exact cancelled

private theorem Turn.deserted (turn : Turn shift after) (deserted : shift.pool.isOver = true) :
    after.pulls = shift.pulls ∧ after.pool.isOver = true := by
  cases turn with
  | @poll _ index _ poll =>
      have alive := poll.alive
      rw [Pool.isOver_iff.mp deserted index] at alive
      cases alive
  | @abort index _ _ alive =>
      rw [Pool.isOver_iff.mp deserted index] at alive
      cases alive
  | order order =>
      refine ⟨rfl, ?_⟩
      rw [Pool.isOver, order.sharesWith.1]
      exact deserted

private theorem asksNoMore_of_kept (holds : Shift → Prop)
    (kept : ∀ shift after, Turn shift after → holds shift →
      after.pulls = shift.pulls ∧ holds after)
    (start : holds shift) : shift.AsksNoMore := by
  intro later turns
  have whole : later.pulls = shift.pulls ∧ holds later := by
    induction turns with
    | refl => exact ⟨rfl, start⟩
    | tail _ turn early =>
        obtain ⟨pulls, held⟩ := kept _ _ turn early.2
        exact ⟨pulls.trans early.1, held⟩
  exact whole.1

/-! ## Between polls everybody waits -/

private theorem Work.isWaiting_ne (work : Work index shift after) (orderly : shift.IsOrderly)
    (apart : other ≠ index) (waits : shift.IsWaiting other) : after.IsWaiting other := by
  cases work.deed orderly with
  | meet _ meets =>
      unfold IsWaiting
      rw [hands_meet_ne apart]
      exact waits.trans (congrArg (·.delivery?.isSome)
        ((Pool.react_moves meets).sharesWith.worker other apart).symm)
  | setLooks => exact (isCalling_setLooks _).trans waits
  | askInVain => exact waits
  | call =>
      unfold IsWaiting
      rw [hands_call_ne apart]
      exact waits

theorem Poll.isWaiting (poll : Poll index shift after) (orderly : shift.IsOrderly)
    (waits : shift.IsWaiting other) : after.IsWaiting other := by
  by_cases same : other = index
  · exact same ▸ poll.waitsAgain
  · have works {mid : Shift}
        (works : Relation.ReflTransGen (Work index) (shift.setLooks true index) mid) :
        mid.IsOrderly ∧ mid.IsWaiting other := by
      induction works with
      | refl =>
          exact ⟨orderly.setLooks fun _ => poll.waits, (isCalling_setLooks true).trans waits⟩
      | tail _ work early =>
          exact ⟨(Step.act (.work work)).isOrderly early.1, work.isWaiting_ne early.1 same early.2⟩
    exact (works poll.works).2

private theorem isWaiting_abort (alive : (shift.pool.worker index).isOver = false)
    (waits : shift.IsWaiting other) : (shift.meet index .abort).IsWaiting other := by
  unfold IsWaiting
  by_cases same : other = index
  · subst same
    have finished : (shift.meet other .abort).pool.worker other = .finished := by
      change (shift.pool.react other .abort).pool.worker other = .finished
      unfold Pool.react
      cases atPoint : shift.pool.worker other with
      | finished =>
          rw [atPoint] at alive
          cases alive
      | idle | waiting | handling | returning => exact Pool.worker_moveTo_finished
    rw [hands_meet_self, finished]
    rfl
  · rw [hands_meet_ne same]
    exact waits.trans (congrArg (·.delivery?.isSome)
      ((Pool.react_moves (.abort alive)).sharesWith.worker other same).symm)

theorem Turn.isWaiting (turn : Turn shift after) (orderly : shift.IsOrderly)
    (rested : ∀ index, shift.IsWaiting index) (index : Nat) : after.IsWaiting index := by
  cases turn with
  | poll _ poll => exact poll.isWaiting orderly (rested index)
  | abort _ _ alive => exact isWaiting_abort alive (rested index)
  | order order =>
      exact (rested index).trans (congrArg (·.delivery?.isSome) (order.worker index).symm)

private theorem isWaiting_of_turns {queue : String} {stream count : Nat}
    (turns : Turns (fresh queue stream count) shift) (index : Nat) : shift.IsWaiting index := by
  induction turns generalizing index with
  | refl => exact (isOrderly_fresh queue stream count).rested index rfl
  | tail early turn rested =>
      exact turn.isWaiting ((Turns.steps early).isOrderly (isOrderly_fresh queue stream count))
        rested index

/-! ## How somebody comes to ask -/

structure IsAsking (index : Nat) (shift : Shift) : Prop where
  looked : (shift.hands index).looks = false
  waits : shift.pool.worker index = .waiting
  first : shift.pool.isFirst index = true

private theorem Poll.of_asking {asking : Shift} (orderly : shift.IsOrderly)
    (alive : (shift.pool.worker index).isOver = false) (waits : shift.IsWaiting index)
    (works : Relation.ReflTransGen (Work index) (shift.setLooks true index) asking)
    (asks : asking.IsAsking index) (grown : shift.marks.length ≤ asking.marks.length) :
    Poll index shift (asking.askInVain index) := by
  have steps : Steps (shift.setLooks true index) asking :=
    Relation.ReflTransGen.mono (fun _ _ work => .act (.work work)) _ _ works
  have stillOrderly := steps.isOrderly (orderly.setLooks fun _ => waits)
  refine ⟨alive, waits, works.tail (.askInVain asks.looked asks.waits asks.first),
    stillOrderly.isWaiting_of_waiting asks.waits, asks.looked, fun _ _ => ?_⟩
  rw [askInVain, List.getLast?_drop, List.length_append, List.length_singleton,
    if_neg (by omega), List.getLast?_concat]

private theorem exists_asking_of_idle (looks : (shift.hands index).looks = true)
    (atPoint : shift.pool.worker index = .idle) (nobody : shift.pool.line = [])
    (going : shift.pool.isStopped = false) :
    ∃ asking, Relation.ReflTransGen (Work index) shift asking ∧ asking.IsAsking index ∧
      asking.marks = shift.marks := by
  have alive : (shift.pool.worker index).isOver = false := by rw [atPoint]; rfl
  have joins : shift.pool.interrupt? index = some .join := by
    rw [Pool.interrupt?, atPoint, going]
    rfl
  have joined : (shift.meet index .join).pool =
      { shift.pool.moveTo .waiting index with line := [index] } := by
    simp [meet, Pool.react, atPoint, nobody]
  have stands : (shift.meet index .join).pool.worker index = .waiting := by
    rw [joined]
    exact Pool.worker_moveTo_self _ alive
  have unmarked : (shift.meet index .join).marks = shift.marks := by
    simp [meet, running, job, atPoint, WorkerPoint.handling?, itemMarks]
  have looking : ((shift.meet index .join).hands index).looks = true := by
    rw [hands_meet_self]
    simp [Pool.react, atPoint]
  have nothing : (shift.meet index .join).pool.interrupt? index = none := by
    rw [Pool.interrupt?, stands, joined]
    change (if shift.pool.isStopped = true then _ else _) = _
    rw [going]
    rfl
  refine ⟨(shift.meet index .join).setLooks false index, ?_, ⟨?_, stands, ?_⟩, unmarked⟩
  · exact (Relation.ReflTransGen.single (.look looks joins)).tail (.overlook looking nothing)
  · simp [setLooks]
  · change (shift.meet index .join).pool.isFirst index = true
    rw [joined]
    simp [Pool.isFirst]

/-- A poll can end with a question that the stream has no answer to yet. -/
def CanAsk (shift : Shift) : Prop :=
  ∃ (index : Nat) (asking : Shift),
    Poll index shift (asking.askInVain index) ∧ asking.pulls = shift.pulls

private theorem canAsk_of_waiting (orderly : shift.IsOrderly) (waits : shift.IsWaiting index)
    (going : shift.pool.isStopped = false) (first : shift.pool.isFirst index = true) :
    shift.CanAsk := by
  have inLine : index ∈ shift.pool.line := List.mem_of_mem_head? (of_decide_eq_true first)
  have atPoint := (orderly.pool.waits index).mp inLine
  have alive : (shift.pool.worker index).isOver = false := by rw [atPoint]; rfl
  have nothing : (shift.setLooks true index).pool.interrupt? index = none := by
    change shift.pool.interrupt? index = none
    rw [Pool.interrupt?, atPoint, going]
    rfl
  have asks : ((shift.setLooks true index).setLooks false index).IsAsking index :=
    ⟨looks_setLooks false, atPoint, first⟩
  have overlooks := Relation.ReflTransGen.single (Work.overlook (looks_setLooks true) nothing)
  exact ⟨index, _, .of_asking orderly alive waits overlooks asks (Nat.le_refl _), rfl⟩

private theorem canAsk_of_idle (orderly : shift.IsOrderly) (waits : shift.IsWaiting index)
    (going : shift.pool.isStopped = false) (nobody : shift.pool.line = [])
    (atPoint : shift.pool.worker index = .idle) : shift.CanAsk := by
  have alive : (shift.pool.worker index).isOver = false := by rw [atPoint]; rfl
  have called : (shift.setLooks true index).pool.worker index = .idle := atPoint
  obtain ⟨asking, works, asks, unmarked⟩ :=
    exists_asking_of_idle (looks_setLooks true) called nobody going
  refine ⟨index, asking, .of_asking orderly alive waits works asks ?_, ?_⟩
  · rw [unmarked]
    exact Nat.le_refl _
  · rw [pulls, unmarked, pulls, setLooks]

private theorem canAsk_of_busy {delivery : Delivery} (orderly : shift.IsOrderly)
    (waits : shift.IsWaiting index) (going : shift.pool.isStopped = false)
    (nobody : shift.pool.line = []) (had : (shift.pool.worker index).delivery? = some delivery) :
    shift.CanAsk := by
  obtain ⟨event, answers, back, awaits⟩ := Pool.exists_answer had
  have alive := (Meets.answer answers).isOver_eq_false
  have nothing : (shift.setLooks true index).pool.interrupt? index = none := by
    change shift.pool.interrupt? index = none
    unfold Pool.interrupt?
    cases atPoint : shift.pool.worker index with
    | handling | returning | finished => rfl
    | idle | waiting =>
        rw [atPoint] at had
        cases had
  let looked := (shift.setLooks true index).setLooks false index
  have calling : (looked.hands index).isCalling = true := by
    rw [isCalling_setLooks, isCalling_setLooks, waits, had]
    rfl
  have works : Relation.ReflTransGen (Work index) (shift.setLooks true index)
      (looked.meet index event) :=
    (Relation.ReflTransGen.single (.overlook (looks_setLooks true) nothing)).tail
      (.hear (looks_setLooks false) calling answers)
  have pool : (looked.meet index event).pool = shift.pool.moveTo .idle index := back
  have looks : ((looked.meet index event).hands index).looks = true := by
    rw [hands_meet_self]
    exact decide_eq_true awaits
  have atPoint : (looked.meet index event).pool.worker index = .idle := by
    rw [pool]
    exact Pool.worker_moveTo_self _ alive
  obtain ⟨asking, further, asks, unmarked⟩ :=
    exists_asking_of_idle looks atPoint (pool ▸ nobody) (pool ▸ going)
  refine ⟨index, asking, .of_asking orderly alive waits (works.trans further) asks ?_, ?_⟩
  · rw [unmarked, meet, List.append_assoc, List.length_append]
    exact Nat.le_add_right ..
  · rw [pulls, unmarked]
    change (looked.meet index event).pulls = shift.pulls
    rw [pulls_meet, itemMarks_of_answers answers, List.append_nil]
    rfl

private theorem canAsk (orderly : shift.IsOrderly) (rested : ∀ index, shift.IsWaiting index)
    (going : shift.pool.isStopped = false) (manned : shift.pool.isOver = false) :
    shift.CanAsk := by
  cases inLine : shift.pool.line with
  | cons first others =>
      exact canAsk_of_waiting orderly (rested first) going (by simp [Pool.isFirst, inLine])
  | nil =>
      obtain ⟨index, alive⟩ : ∃ index, (shift.pool.worker index).isOver = false := by
        refine Classical.byContradiction fun nobody => ?_
        have deserted : shift.pool.isOver = true := Pool.isOver_iff.mpr fun index =>
          Bool.of_not_eq_false fun alive => nobody ⟨index, alive⟩
        rw [deserted] at manned
        cases manned
      cases atPoint : shift.pool.worker index with
      | idle => exact canAsk_of_idle orderly (rested index) going inLine atPoint
      | waiting =>
          have member := (orderly.pool.waits index).mpr atPoint
          rw [inLine] at member
          cases member
      | handling delivery | returning delivery =>
          exact canAsk_of_busy orderly (rested index) going inLine (by rw [atPoint]; rfl)
      | finished =>
          rw [atPoint] at alive
          cases alive

end

/-! ## Who was told of the end -/

/-- A worker that was given anything but a delivery has left. -/
structure IsTold (shift : Shift) : Prop where
  within : ∀ worker item, Mark.took worker item ∈ shift.marks →
    worker < shift.pool.workers.length
  left : ∀ worker item, Mark.took worker item ∈ shift.marks →
    (∀ delivery, item ≠ .delivery delivery) → shift.pool.worker worker = .finished

section

variable {shift after : Shift} {worker : Nat} {item : StreamItem}

theorem Step.took (step : Step shift after) (orderly : shift.IsOrderly)
    (member : Mark.took worker item ∈ after.marks) :
    Mark.took worker item ∈ shift.marks ∨
      shift.pool.worker worker = .waiting ∧ after = shift.meet worker (.item item) := by
  have met {index : Nat} {event : WorkerEvent} (meets : Meets (shift.pool.worker index) event)
      (member : Mark.took worker item ∈ (shift.meet index event).marks) :
      Mark.took worker item ∈ shift.marks ∨
        shift.pool.worker worker = .waiting ∧
          shift.meet index event = shift.meet worker (.item item) := by
    rcases List.mem_append.mp member with early | pulled
    · rcases List.mem_append.mp early with early | ended
      · exact .inl early
      · obtain ⟨pair, -, same⟩ := List.mem_map.mp ended
        cases same
    · unfold itemMarks at pulled
      split at pulled
      · next given =>
          rcases List.mem_cons.mp pulled with same | last
          · cases same
          · cases List.mem_singleton.mp last
            refine .inr ⟨?_, rfl⟩
            generalize shift.pool.worker worker = point at meets
            cases meets with
            | item => rfl
            | answer answers => cases answers
      · cases pulled
  cases step with
  | act act =>
      obtain ⟨index, deed⟩ := act.deed orderly
      cases deed with
      | meet _ meets => exact met meets member
      | setLooks => exact .inl member
      | askInVain =>
          rcases List.mem_append.mp member with early | asked
          · exact .inl early
          · cases List.mem_singleton.mp asked
      | call =>
          rcases List.mem_append.mp member with early | began
          · exact .inl early
          · obtain ⟨pair, -, same⟩ := List.mem_map.mp began
            cases same
  | order => exact .inl member

private theorem worker_meet_item (atPoint : shift.pool.worker worker = .waiting)
    (empty : ∀ delivery, item ≠ .delivery delivery) :
    (shift.meet worker (.item item)).pool.worker worker = .finished := by
  change (shift.pool.react worker (.item item)).pool.worker worker = .finished
  simp only [Pool.react, atPoint]
  cases item with
  | delivery delivery => exact absurd rfl (empty delivery)
  | failure | ended | overrun => exact Pool.worker_moveTo_finished

private theorem isTold_fresh (queue : String) (stream count : Nat) :
    (fresh queue stream count).IsTold where
  within _ _ member := absurd member List.not_mem_nil
  left _ _ member := absurd member List.not_mem_nil

theorem IsTold.step (told : shift.IsTold) (orderly : shift.IsOrderly) (step : Step shift after) :
    after.IsTold := by
  refine ⟨fun worker item member => ?_, fun worker item member empty => ?_⟩
  · rw [step.length_workers orderly]
    rcases step.took orderly member with early | ⟨atPoint, -⟩
    · exact told.within worker item early
    · exact Pool.lt_of_isOver_eq_false (by rw [atPoint]; rfl)
  · rcases step.took orderly member with early | ⟨atPoint, rfl⟩
    · exact step.finished orderly (told.left worker item early empty)
    · exact worker_meet_item atPoint empty

private theorem Steps.isTold (steps : Steps shift after) (orderly : shift.IsOrderly)
    (told : shift.IsTold) : after.IsTold := by
  induction steps with
  | refl => exact told
  | tail early step told => exact told.step (Steps.isOrderly early orderly) step

private theorem isOver_of_hasEnded {queue : String} {stream count : Nat}
    (steps : Steps (fresh queue stream count) shift) (ended : shift.HasEnded) (alone : count ≤ 1) :
    shift.pool.isOver = true := by
  have orderly := isOrderly_fresh queue stream count
  have told := Steps.isTold steps orderly (isTold_fresh queue stream count)
  have one : shift.pool.workers.length = 1 := by
    rw [steps.length_workers orderly]
    simp [fresh, Pool.spawn, Nat.max_eq_right alone]
  obtain ⟨worker, member⟩ := ended
  refine Pool.isOver_iff.mpr fun index => ?_
  by_cases inside : index < shift.pool.workers.length
  · have within := told.within worker .ended member
    have same : index = worker := by omega
    have gone : shift.pool.worker worker = .finished := by
      refine told.left worker .ended member fun delivery isDelivery => ?_
      cases isDelivery
    rw [same, gone]
    rfl
  · rw [shift.pool.worker_eq_finished index (Nat.le_of_not_lt inside)]
    rfl

end

theorem asksNoMore_iff_of_hasEnded (queue : String) (stream count : Nat) {shift : Shift}
    (turns : Turns (fresh queue stream count) shift) (ended : shift.HasEnded) :
    (shift.AsksNoMore ↔ shift.pool.isStopped = true ∨ shift.pool.isCancelled = true ∨
        shift.pool.isOver = true) ∧
      (count ≤ 1 → shift.AsksNoMore) := by
  have orderly := turns.steps.isOrderly (isOrderly_fresh queue stream count)
  have deserted : shift.pool.isOver = true → shift.AsksNoMore :=
    asksNoMore_of_kept (fun shift => shift.pool.isOver = true) fun _ _ turn => turn.deserted
  refine ⟨⟨fun noMore => ?_, ?_⟩, fun alone => ?_⟩
  · refine Classical.byContradiction fun none => ?_
    have going : shift.pool.isStopped = false :=
      Bool.of_not_eq_true fun stopped => none (.inl stopped)
    have kept : shift.pool.isCancelled = false :=
      Bool.of_not_eq_true fun cancelled => none (.inr (.inl cancelled))
    have manned : shift.pool.isOver = false :=
      Bool.of_not_eq_true fun gone => none (.inr (.inr gone))
    obtain ⟨index, asking, poll, same⟩ := canAsk orderly (isWaiting_of_turns turns) going manned
    have unasked := noMore _ (.single (.poll kept poll))
    rw [pulls_askInVain, same] at unasked
    cases List.append_right_eq_self.mp unasked
  · rintro (stopped | cancelled | gone)
    · exact asksNoMore_of_kept (fun shift => shift.pool.isStopped = true)
        (fun _ _ turn => turn.held) stopped
    · exact asksNoMore_of_kept (fun shift => shift.pool.isCancelled = true)
        (fun _ _ turn => turn.cutOff) cancelled
    · exact deserted gone
  · exact deserted (isOver_of_hasEnded turns.steps ended alone)

/-- The first of two workers in line has met the end of the stream. -/
def endMet : Shift :=
  ((twoInLine.setLooks true 0).setLooks false 0).meet 0 (.item .ended)

private theorem turns_endMet : Turns (fresh "orders" 1 2) endMet := by
  have met : Poll 0 twoInLine endMet := by
    refine ⟨rfl, rfl, ?_, rfl, rfl, nofun⟩
    exact (Relation.ReflTransGen.single (.overlook rfl rfl)).tail (.ask _ rfl rfl rfl)
  exact turns_twoInLine.tail (.poll rfl met)

private theorem hasEnded_endMet : endMet.HasEnded :=
  ⟨0, by simp [endMet, meet, itemMarks]⟩

theorem asksNoMore_iff_of_hasEnded_twoInLine :
    Turns (fresh "orders" 1 2) endMet ∧ endMet.HasEnded ∧
      (endMet.AsksNoMore ↔ endMet.pool.isStopped = true ∨ endMet.pool.isCancelled = true ∨
        endMet.pool.isOver = true) :=
  ⟨turns_endMet, hasEnded_endMet,
    (asksNoMore_iff_of_hasEnded "orders" 1 2 turns_endMet hasEnded_endMet).1⟩

theorem stream_asked_after_end :
    ¬ ∀ (queue : String) (stream count : Nat) (shift : Shift),
      Turns (fresh queue stream count) shift → shift.HasEnded → shift.AsksNoMore := by
  intro never
  have again : Poll 1 endMet (((endMet.setLooks true 1).setLooks false 1).askInVain 1) := by
    refine ⟨rfl, rfl, ?_, rfl, rfl, fun _ _ => rfl⟩
    exact (Relation.ReflTransGen.single (.overlook rfl rfl)).tail (.askInVain rfl rfl rfl)
  have same := never "orders" 1 2 endMet turns_endMet hasEnded_endMet _ (.single (.poll rfl again))
  cases congrArg List.length same

end Shift

end AmqpClient.Consumer
