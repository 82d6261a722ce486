import AmqpClient.Proofs.Consumer.Record
import Mathlib.Data.List.Nodup

/-!
# A queue that nobody can work off

A broker hands the messages of a queue to a pool, and the handler fails for every one of them.
The broker carries out what it is told about a delivery: a message that is given back returns
to its queue as one that was delivered before, any other is gone. Which message is handed out
next, when a settlement is carried out and which worker goes on is left open.
-/

set_option autoImplicit false

namespace AmqpClient.Consumer

/-! ## Workers without a delivery -/

namespace Shift

/-- What has nothing to do with any delivery. -/
inductive Bides : Shift → Shift → Prop where
  | look {shift : Shift} (index : Nat) {event : WorkerEvent} :
      (shift.hands index).looks = true → shift.pool.interrupt? index = some event →
      Bides shift (shift.meet index event)
  | overlook {shift : Shift} (index : Nat) :
      (shift.hands index).looks = true → shift.pool.interrupt? index = none →
      Bides shift (shift.setLooks false index)
  | askInVain {shift : Shift} (index : Nat) :
      (shift.hands index).looks = false → shift.pool.worker index = .waiting →
      shift.pool.isFirst index = true → Bides shift (shift.askInVain index)
  | poll {shift : Shift} (index : Nat) :
      shift.IsWaiting index → Bides shift (shift.setLooks true index)
  | order {shift : Shift} {pool : Pool} :
      Order shift.pool pool → Bides shift { shift with pool }

/-- A worker has no delivery before or after, or it stands where it stood. -/
def Spares (index : Nat) (shift after : Shift) : Prop :=
  (shift.pool.worker index).delivery? = none ∧ (after.pool.worker index).delivery? = none ∨
    after.pool.worker index = shift.pool.worker index ∧
      (after.hands index).isCalling = (shift.hands index).isCalling

section

variable {shift after : Shift} {index other : Nat} {event : WorkerEvent} {delivery : Delivery}

theorem Bides.step (bides : Bides shift after) : Step shift after := by
  cases bides with
  | look index looks found => exact .act (.work (.look looks found))
  | overlook index looks nothing => exact .act (.work (.overlook looks nothing))
  | askInVain index overlooked atPoint first =>
      exact .act (.work (.askInVain overlooked atPoint first))
  | poll index waits => exact .act (.poll waits)
  | order order => exact .order order

private theorem taken_meet : (shift.meet index event).taken = shift.taken ++ given index event := by
  rw [taken, meet, List.filterMap_append, List.filterMap_append, (filterMap_ended _).1,
    (filterMap_itemMarks index event).1, List.append_nil, taken]

private theorem taken_call : (shift.call index).taken = shift.taken := by
  rw [taken, call, List.filterMap_append, (filterMap_began _).1, List.append_nil, taken]

private theorem spares_meet_of_ne (meets : Meets (shift.pool.worker index) event)
    (apart : other ≠ index) :
    Spares other shift (shift.meet index event) :=
  .inr ⟨(Pool.react_moves meets).sharesWith.worker other apart, by rw [hands_meet_ne apart]⟩

private theorem spares_call_of_ne (apart : other ≠ index) : Spares other shift (shift.call index) :=
  .inr ⟨rfl, by rw [hands_call_ne apart]⟩

private theorem delivery?_of_interrupt? (found : shift.pool.interrupt? index = some event) :
    (shift.pool.worker index).delivery? = none := by
  unfold Pool.interrupt? at found
  split at found
  · next atPoint =>
      rw [atPoint]
      rfl
  · next atPoint =>
      rw [atPoint]
      rfl
  · cases found
  · cases found
  · cases found

private theorem given_of_interrupt? (found : shift.pool.interrupt? index = some event) :
    given index event = [] ∧ ((shift.meet index event).pool.worker index).delivery? = none := by
  obtain ⟨meets, ⟨-, rfl⟩ | ⟨-, rfl⟩⟩ := Pool.meets_of_interrupt? found
  · refine ⟨rfl, ?_⟩
    have gone : (shift.meet index .stop).pool.worker index = .finished :=
      Pool.worker_react_stop meets
    rw [gone]
    rfl
  · refine ⟨rfl, ?_⟩
    have moves := Pool.react_moves meets
    have alive := meets.isOver_eq_false
    change ((shift.pool.react index .join).pool.worker index).delivery? = none
    generalize (shift.pool.react index .join).next = next at moves
    generalize (shift.pool.react index .join).pool = pool at moves
    cases moves with
    | join =>
        change ((shift.pool.moveTo .waiting index).worker index).delivery? = none
        rw [Pool.worker_moveTo_self _ alive]
        rfl
    | finish had answers => exact absurd had (by rw [delivery?_of_interrupt? found]; nofun)
    | leave =>
        change (((shift.pool.leaveLine index).moveTo .finished index).worker index).delivery? =
          none
        rw [Pool.worker_moveTo_finished]
        rfl

theorem Bides.taken (bides : Bides shift after) : after.taken = shift.taken := by
  cases bides with
  | look index looks found => rw [taken_meet, (given_of_interrupt? found).1, List.append_nil]
  | askInVain => exact (List.filterMap_append ..).trans (List.append_nil _)
  | overlook | poll | order => rfl

theorem Bides.spares (bides : Bides shift after) (other : Nat) : Spares other shift after := by
  cases bides with
  | look index looks found =>
      by_cases same : other = index
      · subst same
        exact .inl ⟨delivery?_of_interrupt? found, (given_of_interrupt? found).2⟩
      · exact spares_meet_of_ne (Pool.meets_of_interrupt? found).1 same
  | overlook | poll => exact .inr ⟨rfl, isCalling_setLooks _⟩
  | askInVain => exact .inr ⟨rfl, rfl⟩
  | order order => exact .inr ⟨order.worker other, rfl⟩

theorem Spares.returning (spares : Spares index shift after)
    (atPoint : shift.pool.worker index = .returning delivery) :
    after.pool.worker index = .returning delivery := by
  rcases spares with ⟨none, -⟩ | ⟨worker, -⟩
  · rw [atPoint] at none
    cases none
  · exact worker.trans atPoint

/-! ## Workers with a delivery -/

private theorem worker_meet_delivery (atPoint : shift.pool.worker index = .waiting) :
    (shift.meet index (.item (.delivery delivery))).pool.worker index = .handling delivery := by
  have alive : (shift.pool.worker index).isOver = false := by rw [atPoint]; rfl
  unfold meet
  simp only [Pool.react, atPoint, Pool.takeItem]
  rw [Pool.worker_moveTo_self]
  exact alive

private theorem worker_meet_failed {error : ClientError}
    (atPoint : shift.pool.worker index = .handling delivery) :
    (shift.meet index (.handled (.error error) false)).pool.worker index = .returning delivery := by
  have alive : (shift.pool.worker index).isOver = false := by rw [atPoint]; rfl
  unfold meet
  simp only [Pool.react, atPoint, Pool.finishHandling]
  exact Pool.worker_moveTo_self _ alive

private theorem worker_meet_settled (atPoint : shift.pool.worker index = .returning delivery) :
    (shift.meet index (.settled (.ok ()))).pool.worker index = .idle := by
  have alive : (shift.pool.worker index).isOver = false := by rw [atPoint]; rfl
  unfold meet
  simp only [Pool.react, atPoint, Pool.finishReturning]
  exact Pool.worker_moveTo_self _ alive

private theorem worker_meet_abort (alive : (shift.pool.worker index).isOver = false) :
    (shift.meet index .abort).pool.worker index = .finished := by
  have moves := Pool.react_moves (.abort alive)
  change (shift.pool.react index .abort).pool.worker index = .finished
  generalize (shift.pool.react index .abort).next = next at moves
  generalize (shift.pool.react index .abort).pool = pool at moves
  cases moves with
  | finish had answers =>
      generalize shift.pool.worker index = point at answers
      cases answers
  | leave => exact Pool.worker_moveTo_finished

end

end Shift

/-! ## Messages and deliveries -/

namespace Backlog

/-- A message of the queue, told apart from all others by its number. -/
structure Message where
  number : Nat
  delivery : Delivery
  deriving DecidableEq

namespace Message

/-- The message as it is handed out. -/
def tagged (tag : Nat) (message : Message) : Message :=
  { message with delivery := { message.delivery with tag } }

/-- The message as it comes back to its queue. -/
def redelivered (message : Message) : Message :=
  { message with delivery := { message.delivery with redelivered := true } }

/-- What becomes of a message that was settled. -/
def restored (settlement : Settlement) (message : Message) : List Message :=
  if settlement.requeues then [message.redelivered] else []

end Message

/-- The messages that a queue is given at first. -/
def numbered (number : Nat) : List Delivery → List Message
  | [] => []
  | delivery :: rest => { number, delivery } :: numbered (number + 1) rest

end Backlog

structure Backlog where
  shift : Shift
  /-- What there is to hand out, in no particular order. -/
  queue : List Backlog.Message
  /-- What was handed out and is not settled, as far as the broker knows. -/
  unsettled : List Backlog.Message := []
  /-- Deliveries on their way to the workers. -/
  stream : List Delivery := []
  /-- The flag of each delivery, by its tag. -/
  isSettled : Nat → Bool := fun _ => false
  /-- What the broker was told, by tags. -/
  told : List (Nat × Settlement) := []
  /-- All that was ever handed out, and all that was settled. -/
  handed : List Backlog.Message := []
  settled : List Backlog.Message := []
  /-- The handler has returned. -/
  returned : List Delivery := []
  /-- A worker was cut off that had the delivery. -/
  dropped : List Delivery := []

namespace Backlog

def start (name : String) (stream count : Nat) (contents : List Delivery) : Backlog where
  shift := Shift.fresh name stream count
  queue := numbered 0 contents

/-- How often the handler was called for a message. -/
def handlings (number : Nat) (backlog : Backlog) : Nat :=
  backlog.shift.begun.countP fun pair =>
    ({ number, delivery := pair.2 } : Message) ∈ backlog.handed

def handOut (message : Message) (rest : List Message) (backlog : Backlog) : Backlog :=
  let handed := message.tagged (backlog.handed.length + 1)
  { backlog with
    queue := rest
    unsettled := backlog.unsettled ++ [handed]
    stream := backlog.stream ++ [handed.delivery]
    handed := backlog.handed ++ [handed] }

def carryOut (message : Message) (queue : List Message) (backlog : Backlog) : Backlog :=
  { backlog with
    queue
    unsettled := backlog.unsettled.erase message
    settled := backlog.settled ++ [message] }

def take (index : Nat) (delivery : Delivery) (rest : List Delivery) (backlog : Backlog) :
    Backlog :=
  { backlog with
    shift := backlog.shift.meet index (.item (.delivery delivery))
    stream := rest }

/-- The handler fails, and the worker looks at the flag. -/
def fail (index : Nat) (delivery : Delivery) (error : ClientError) (backlog : Backlog) : Backlog :=
  { backlog with
    shift :=
      backlog.shift.meet index (.handled (.error error) (backlog.isSettled delivery.tag))
    returned := backlog.returned ++ [delivery] }

/-- The worker settles the delivery itself. The broker is told if nobody did so before. -/
def giveBack (index : Nat) (delivery : Delivery) (backlog : Backlog) : Backlog :=
  let (route, isSettled) :=
    settle (backlog.isSettled delivery.tag) delivery.automaticSettlement
  { backlog with
    shift := backlog.shift.call index
    isSettled := Function.update backlog.isSettled delivery.tag isSettled
    told :=
      match route with
      | .answered => backlog.told
      | .forwarded settlement => backlog.told ++ [(delivery.tag, settlement)] }

/-- Whether the broker has carried out all that it was told about a tag. -/
def IsAnswered (tag : Nat) (backlog : Backlog) : Prop :=
  ∀ message ∈ backlog.unsettled, message.delivery.tag = tag →
    ∀ settlement, (tag, settlement) ∉ backlog.told

inductive Step (prefetch : Nat) : Backlog → Backlog → Prop where
  /-- Not more than so many deliveries are unsettled at a time, unless there is no limit. -/
  | handOut {backlog : Backlog} {message : Message} {rest : List Message} :
      backlog.queue.Perm (message :: rest) →
      prefetch = 0 ∨ backlog.unsettled.length < prefetch →
      Step prefetch backlog (backlog.handOut message rest)
  | carryOut {backlog : Backlog} {message : Message} {settlement : Settlement}
      {queue : List Message} :
      message ∈ backlog.unsettled → (message.delivery.tag, settlement) ∈ backlog.told →
      queue.Perm (message.restored settlement ++ backlog.queue) →
      Step prefetch backlog (backlog.carryOut message queue)
  | bide {backlog : Backlog} {shift : Shift} :
      Shift.Bides backlog.shift shift → Step prefetch backlog { backlog with shift }
  | take {backlog : Backlog} (index : Nat) {delivery : Delivery} {rest : List Delivery} :
      (backlog.shift.hands index).looks = false →
      backlog.shift.pool.worker index = .waiting → backlog.shift.pool.isFirst index = true →
      backlog.stream = delivery :: rest →
      Step prefetch backlog (backlog.take index delivery rest)
  | begin {backlog : Backlog} (index : Nat) {delivery : Delivery} :
      (backlog.shift.hands index).looks = false →
      (backlog.shift.hands index).isCalling = false →
      backlog.shift.pool.worker index = .handling delivery →
      Step prefetch backlog { backlog with shift := backlog.shift.call index }
  | fail {backlog : Backlog} (index : Nat) {delivery : Delivery} (error : ClientError) :
      (backlog.shift.hands index).looks = false →
      (backlog.shift.hands index).isCalling = true →
      backlog.shift.pool.worker index = .handling delivery →
      Step prefetch backlog (backlog.fail index delivery error)
  | giveBack {backlog : Backlog} (index : Nat) {delivery : Delivery} :
      (backlog.shift.hands index).looks = false →
      (backlog.shift.hands index).isCalling = false →
      backlog.shift.pool.worker index = .returning delivery →
      Step prefetch backlog (backlog.giveBack index delivery)
  /-- Settlements succeed once they are carried out. -/
  | answered {backlog : Backlog} (index : Nat) {delivery : Delivery} :
      (backlog.shift.hands index).looks = false →
      (backlog.shift.hands index).isCalling = true →
      backlog.shift.pool.worker index = .returning delivery → backlog.IsAnswered delivery.tag →
      Step prefetch backlog
        { backlog with shift := backlog.shift.meet index (.settled (.ok ())) }
  | abort {backlog : Backlog} (index : Nat) :
      backlog.shift.pool.isCancelled = true → backlog.shift.IsWaiting index →
      (backlog.shift.pool.worker index).isOver = false →
      Step prefetch backlog
        { backlog with
          shift := backlog.shift.meet index .abort
          dropped := backlog.dropped ++ (backlog.shift.pool.worker index).delivery?.toList }

abbrev Steps (prefetch : Nat) : Backlog → Backlog → Prop :=
  Relation.ReflTransGen (Step prefetch)

section

variable {prefetch : Nat} {backlog after : Backlog} {index : Nat} {delivery : Delivery}

/-- Whatever happens to a backlog, its workers go on as workers do. -/
theorem Step.shift (step : Step prefetch backlog after) :
    Shift.Steps backlog.shift after.shift := by
  cases step with
  | handOut | carryOut => exact .refl
  | bide bides => exact .single bides.step
  | take index overlooked atPoint first =>
      exact .single (.act (.work (.ask _ overlooked atPoint first)))
  | begin index overlooked idle atPoint =>
      exact .single (.act (.work (.call overlooked idle (by rw [atPoint]; rfl))))
  | fail index error overlooked calling atPoint =>
      exact .single (.act (.work (.hear overlooked calling (atPoint ▸ .handled _ _))))
  | giveBack index overlooked idle atPoint =>
      exact .single (.act (.work (.call overlooked idle (by rw [atPoint]; rfl))))
  | answered index overlooked calling atPoint =>
      exact .single (.act (.work (.hear overlooked calling (atPoint ▸ .settled _))))
  | abort index cancelled waits alive => exact .single (.act (.abort cancelled waits alive))

theorem Steps.shift (steps : Steps prefetch backlog after) :
    Shift.Steps backlog.shift after.shift := by
  induction steps with
  | refl => exact .refl
  | tail _ step early => exact early.trans step.shift

end

/-! ## What holds of a backlog at any time -/

/-- A worker with the delivery that it has. Nobody has settled what is being handled, and the
broker was told of what a worker waits for. -/
inductive Stands (backlog : Backlog) (index : Nat) : WorkerPoint → Bool → Prop where
  | free {point : WorkerPoint} {isCalling : Bool} :
      point.delivery? = none → Stands backlog index point isCalling
  | handling {delivery : Delivery} {isCalling : Bool} :
      (index, delivery) ∈ backlog.shift.taken → backlog.isSettled delivery.tag = false →
      Stands backlog index (.handling delivery) isCalling
  | returning {delivery : Delivery} {isCalling : Bool} :
      (index, delivery) ∈ backlog.shift.taken →
      (isCalling = true → ∃ settlement, (delivery.tag, settlement) ∈ backlog.told) →
      Stands backlog index (.returning delivery) isCalling

structure IsSound (backlog : Backlog) : Prop where
  /-- The workers take what was handed out, in this order. -/
  streamed : backlog.shift.taken.map Prod.snd ++ backlog.stream =
    backlog.handed.map Message.delivery
  tags : (backlog.handed.map Message.delivery).map Delivery.tag =
    List.range' 1 backlog.handed.length
  account : backlog.handed.Perm (backlog.unsettled ++ backlog.settled)
  told : ∀ tag settlement, (tag, settlement) ∈ backlog.told →
    ∃ pair ∈ backlog.shift.taken, pair.2.tag = tag ∧ settlement = pair.2.automaticSettlement
  flagged : ∀ tag, backlog.isSettled tag = true → ∃ settlement, (tag, settlement) ∈ backlog.told
  workers : ∀ index,
    backlog.Stands index (backlog.shift.pool.worker index) (backlog.shift.hands index).isCalling
  returned : backlog.returned ⊆ backlog.shift.taken.map Prod.snd
  dealtWith : ∀ message ∈ backlog.unsettled, message.delivery ∈ backlog.returned →
    (∃ index, backlog.shift.pool.worker index = .returning message.delivery) ∨
      message.delivery ∈ backlog.dropped

section

variable {prefetch : Nat} {backlog after : Backlog} {index : Nat} {delivery : Delivery}
  {message : Message} {point : WorkerPoint} {isCalling : Bool}

theorem isSound_start (name : String) (stream count : Nat) (contents : List Delivery) :
    (start name stream count contents).IsSound where
  streamed := rfl
  tags := rfl
  account := .refl _
  told _ _ member := absurd member List.not_mem_nil
  flagged _ settled := absurd settled Bool.false_ne_true
  workers index := by
    refine .free ?_
    rw [start, Shift.fresh, Pool.worker_spawn]
    split <;> rfl
  returned := List.nil_subset _
  dealtWith _ member := absurd member List.not_mem_nil

/-! ### Stands -/

theorem Stands.taken (stands : backlog.Stands index point isCalling)
    (had : point.delivery? = some delivery) : (index, delivery) ∈ backlog.shift.taken := by
  cases stands with
  | free none => cases none.symm.trans had
  | handling taken | returning taken =>
      cases had
      exact taken

theorem Stands.isSettled (stands : backlog.Stands index (.handling delivery) isCalling) :
    backlog.isSettled delivery.tag = false := by
  cases stands with
  | free none => cases none
  | handling _ unsettled => exact unsettled

theorem Stands.told (stands : backlog.Stands index (.returning delivery) true) :
    ∃ settlement, (delivery.tag, settlement) ∈ backlog.told := by
  cases stands with
  | free none => cases none
  | returning _ told => exact told rfl

theorem Stands.mono (stands : backlog.Stands index point isCalling)
    (taken : backlog.shift.taken ⊆ after.shift.taken) (told : backlog.told ⊆ after.told)
    (flags : ∀ delivery, point = .handling delivery →
      after.isSettled delivery.tag = backlog.isSettled delivery.tag) :
    after.Stands index point isCalling := by
  cases stands with
  | free none => exact .free none
  | handling was unsettled => exact .handling (taken was) ((flags _ rfl).trans unsettled)
  | returning was pending =>
      refine .returning (taken was) fun calling => ?_
      obtain ⟨settlement, member⟩ := pending calling
      exact ⟨settlement, told member⟩

theorem Stands.spared
    (stands : backlog.Stands index (backlog.shift.pool.worker index)
      (backlog.shift.hands index).isCalling)
    (spares : Shift.Spares index backlog.shift after.shift)
    (taken : backlog.shift.taken ⊆ after.shift.taken) (told : backlog.told ⊆ after.told)
    (flags : ∀ delivery, backlog.shift.pool.worker index = .handling delivery →
      after.isSettled delivery.tag = backlog.isSettled delivery.tag) :
    after.Stands index (after.shift.pool.worker index) (after.shift.hands index).isCalling := by
  rcases spares with ⟨-, none⟩ | ⟨worker, hand⟩
  · exact .free none
  · rw [worker, hand]
    exact stands.mono taken told flags

private theorem isSettled_giveBack :
    (backlog.giveBack index delivery).isSettled =
      Function.update backlog.isSettled delivery.tag true := rfl

private theorem mem_told_giveBack {tag : Nat} {settlement : Settlement} :
    (tag, settlement) ∈ (backlog.giveBack index delivery).told ↔
      (tag, settlement) ∈ backlog.told ∨ backlog.isSettled delivery.tag = false ∧
        tag = delivery.tag ∧ settlement = delivery.automaticSettlement := by
  cases settled : backlog.isSettled delivery.tag with
  | true => simp [giveBack, settle, settled]
  | false => simp [giveBack, settle, settled]

/-! ### Tags -/

namespace IsSound

theorem nodup_tags (sound : backlog.IsSound) :
    ((backlog.handed.map Message.delivery).map Delivery.tag).Nodup := by
  rw [sound.tags]
  exact List.nodup_range'

private theorem mem_handed (sound : backlog.IsSound)
    (member : delivery ∈ backlog.shift.taken.map Prod.snd) :
    delivery ∈ backlog.handed.map Message.delivery :=
  sound.streamed ▸ List.mem_append_left _ member

theorem mem_handed_of_unsettled (sound : backlog.IsSound) (member : message ∈ backlog.unsettled) :
    message ∈ backlog.handed :=
  sound.account.mem_iff.mpr (List.mem_append_left _ member)

/-- What was taken is told apart by tags, and no tag is taken that is still on its way. -/
theorem nodup_taken (sound : backlog.IsSound) :
    ((backlog.shift.taken.map Prod.snd).map Delivery.tag ++
      backlog.stream.map Delivery.tag).Nodup := by
  rw [← List.map_append, sound.streamed]
  exact sound.nodup_tags

private theorem eq_of_tag {first second : Nat × Delivery} (sound : backlog.IsSound)
    (taken : first ∈ backlog.shift.taken) (takenToo : second ∈ backlog.shift.taken)
    (same : first.2.tag = second.2.tag) : first = second := by
  have nodup := (List.nodup_append.mp sound.nodup_taken).1
  rw [List.map_map] at nodup
  exact List.inj_on_of_nodup_map nodup taken takenToo same

/-- A message that was handed out is the delivery that a worker has taken under its tag. -/
theorem delivery_eq {pair : Nat × Delivery} (sound : backlog.IsSound)
    (handed : message ∈ backlog.handed) (taken : pair ∈ backlog.shift.taken)
    (same : pair.2.tag = message.delivery.tag) : pair.2 = message.delivery :=
  List.inj_on_of_nodup_map sound.nodup_tags (sound.mem_handed (List.mem_map_of_mem taken))
    (List.mem_map_of_mem handed) same

private theorem tag_le (sound : backlog.IsSound)
    (member : delivery ∈ backlog.handed.map Message.delivery) :
    delivery.tag ≤ backlog.handed.length := by
  have inside : delivery.tag ∈ List.range' 1 backlog.handed.length :=
    sound.tags ▸ List.mem_map_of_mem member
  have bounds := List.mem_range'_1.mp inside
  omega

/-- The broker is told what a worker tells of itself. -/
theorem settlement_eq {settlement : Settlement} (sound : backlog.IsSound)
    (handed : message ∈ backlog.handed)
    (told : (message.delivery.tag, settlement) ∈ backlog.told) :
    settlement = message.delivery.automaticSettlement := by
  obtain ⟨pair, taken, same, automatic⟩ := sound.told _ _ told
  rw [automatic, sound.delivery_eq handed taken same]

/-! ### Steps of the broker -/

theorem handOut (sound : backlog.IsSound) (message : Message) (rest : List Message) :
    (backlog.handOut message rest).IsSound where
  streamed := by
    simp only [Backlog.handOut, List.map_append, List.map_singleton, ← sound.streamed,
      List.append_assoc]
  tags := by
    simp only [Backlog.handOut, List.map_append, List.map_singleton, List.length_append,
      List.length_singleton, sound.tags, List.range'_1_concat]
    rw [Message.tagged, Nat.add_comm 1]
  account := by
    refine (sound.account.append_right _).trans ?_
    change List.Perm (_ ++ _ ++ [_]) ((_ ++ [_]) ++ _)
    rw [List.append_assoc, List.append_assoc]
    exact List.perm_append_comm.append_left _
  told := sound.told
  flagged := sound.flagged
  workers index :=
    (sound.workers index).mono (List.Subset.refl _) (List.Subset.refl _) fun _ _ => rfl
  returned := sound.returned
  dealtWith other member returned := by
    rcases List.mem_append.mp member with early | last
    · exact sound.dealtWith other early returned
    · -- What was handed out just now has a tag of its own, so no handler has returned for it.
      have early := sound.tag_le (sound.mem_handed (sound.returned returned))
      rw [List.mem_singleton.mp last] at early
      exact absurd early (Nat.not_succ_le_self _)

theorem carryOut (sound : backlog.IsSound) (member : message ∈ backlog.unsettled)
    (queue : List Message) : (backlog.carryOut message queue).IsSound where
  streamed := sound.streamed
  tags := sound.tags
  account := by
    have taken : (backlog.unsettled ++ backlog.settled).Perm
        (message :: backlog.unsettled.erase message ++ backlog.settled) :=
      (List.perm_cons_erase member).append_right _
    have put : (message :: backlog.unsettled.erase message ++ backlog.settled).Perm
        (backlog.unsettled.erase message ++ (backlog.settled ++ [message])) := by
      rw [List.cons_append, ← List.append_assoc]
      exact (List.perm_append_singleton _ _).symm
    exact (sound.account.trans taken).trans put
  told := sound.told
  flagged := sound.flagged
  workers index :=
    (sound.workers index).mono (List.Subset.refl _) (List.Subset.refl _) fun _ _ => rfl
  returned := sound.returned
  dealtWith other member := sound.dealtWith other (List.mem_of_mem_erase member)

/-! ### Steps of the workers -/

/-- The broker's part stays, and no delivery is taken. -/
theorem reshift {shift : Shift} {returned dropped : List Delivery} (sound : backlog.IsSound)
    (taken : shift.taken = backlog.shift.taken)
    (workers : ∀ index, Stands { backlog with shift, returned, dropped } index
      (shift.pool.worker index) (shift.hands index).isCalling)
    (known : returned ⊆ backlog.shift.taken.map Prod.snd)
    (dealtWith : ∀ message ∈ backlog.unsettled, message.delivery ∈ returned →
      (∃ index, shift.pool.worker index = .returning message.delivery) ∨
        message.delivery ∈ dropped) :
    { backlog with shift, returned, dropped : Backlog }.IsSound where
  streamed := by rw [taken, sound.streamed]
  tags := sound.tags
  account := sound.account
  told tag settlement member := by
    rw [taken]
    exact sound.told tag settlement member
  flagged := sound.flagged
  workers := workers
  returned := by
    rw [taken]
    exact known
  dealtWith := dealtWith

theorem bide {shift : Shift} (sound : backlog.IsSound) (bides : Shift.Bides backlog.shift shift) :
    { backlog with shift : Backlog }.IsSound := by
  refine sound.reshift bides.taken (fun index => ?_) sound.returned
    fun message member returned => ?_
  · exact (sound.workers index).spared (bides.spares index) (bides.taken ▸ List.Subset.refl _)
      (List.Subset.refl _) fun _ _ => rfl
  · refine (sound.dealtWith message member returned).imp ?_ id
    rintro ⟨index, atPoint⟩
    exact ⟨index, (bides.spares index).returning atPoint⟩

/-- A worker that moves on leaves all others where they are. -/
theorem meet {event : WorkerEvent} {returned dropped : List Delivery} (sound : backlog.IsSound)
    (meets : Meets (backlog.shift.pool.worker index) event) (nothing : Shift.given index event = [])
    (own : Stands { backlog with shift := backlog.shift.meet index event, returned, dropped } index
      ((backlog.shift.meet index event).pool.worker index) false)
    (known : returned ⊆ backlog.shift.taken.map Prod.snd)
    (dealtWith : ∀ message ∈ backlog.unsettled, message.delivery ∈ returned →
      (∃ other, (backlog.shift.meet index event).pool.worker other =
          .returning message.delivery) ∨
        message.delivery ∈ dropped) :
    { backlog with
      shift := backlog.shift.meet index event, returned, dropped : Backlog }.IsSound := by
  have taken : (backlog.shift.meet index event).taken = backlog.shift.taken := by
    rw [Shift.taken_meet, nothing, List.append_nil]
  refine sound.reshift taken (fun other => ?_) known dealtWith
  by_cases same : other = index
  · subst same
    rw [Shift.hands_meet_self]
    exact own
  · exact (sound.workers other).spared (Shift.spares_meet_of_ne meets same)
      (taken ▸ List.Subset.refl _) (List.Subset.refl _) fun _ _ => rfl

/-- Who is left to deal with a delivery once a worker has moved on. -/
theorem left {event : WorkerEvent} (sound : backlog.IsSound)
    (meets : Meets (backlog.shift.pool.worker index) event) (member : message ∈ backlog.unsettled)
    (returned : message.delivery ∈ backlog.returned) :
    backlog.shift.pool.worker index = .returning message.delivery ∨
      (∃ other, (backlog.shift.meet index event).pool.worker other =
          .returning message.delivery) ∨
        message.delivery ∈ backlog.dropped := by
  rcases sound.dealtWith message member returned with ⟨other, atPoint⟩ | dropped
  · by_cases same : other = index
    · exact .inl (same ▸ atPoint)
    · exact .inr (.inl ⟨other, (Shift.spares_meet_of_ne meets same).returning atPoint⟩)
  · exact .inr (.inr dropped)

theorem fail (sound : backlog.IsSound)
    (atPoint : backlog.shift.pool.worker index = .handling delivery) (error : ClientError) :
    (backlog.fail index delivery error).IsSound := by
  have stands := sound.workers index
  rw [atPoint] at stands
  have taken := stands.taken rfl
  have meets : Meets (backlog.shift.pool.worker index) (.handled (.error error) false) :=
    atPoint ▸ .answer (.handled _ _)
  have back : (backlog.shift.meet index (.handled (.error error) false)).pool.worker index =
      .returning delivery :=
    Shift.worker_meet_failed atPoint
  rw [Backlog.fail, stands.isSettled]
  refine sound.meet meets rfl ?_ ?_ fun message member returned => ?_
  · rw [back]
    refine .returning ?_ nofun
    change _ ∈ (backlog.shift.meet index _).taken
    rw [Shift.taken_meet]
    exact List.mem_append_left _ taken
  · refine List.append_subset.mpr ⟨sound.returned, ?_⟩
    rintro other member
    rw [List.mem_singleton.mp member]
    exact List.mem_map_of_mem taken
  · rcases List.mem_append.mp returned with early | last
    · rcases sound.left meets member early with own | left
      · rw [atPoint] at own
        cases own
      · exact left
    · exact .inl ⟨index, List.mem_singleton.mp last ▸ back⟩

theorem answered (sound : backlog.IsSound)
    (atPoint : backlog.shift.pool.worker index = .returning delivery)
    (calling : (backlog.shift.hands index).isCalling = true)
    (answered : backlog.IsAnswered delivery.tag) :
    { backlog with
      shift := backlog.shift.meet index (.settled (.ok ())) : Backlog }.IsSound := by
  have meets : Meets (backlog.shift.pool.worker index) (.settled (.ok ())) :=
    atPoint ▸ .answer (.settled _)
  refine sound.meet meets rfl (.free ?_) sound.returned fun message member returned => ?_
  · rw [Shift.worker_meet_settled atPoint]
    rfl
  · rcases sound.left meets member returned with own | left
    · -- The broker was told about the delivery, and has carried out what it was told.
      have stands := sound.workers index
      rw [atPoint, calling] at stands
      obtain ⟨settlement, told⟩ := stands.told
      cases atPoint.symm.trans own
      exact absurd told (answered message member rfl settlement)
    · exact left

theorem abort (sound : backlog.IsSound)
    (alive : (backlog.shift.pool.worker index).isOver = false) :
    { backlog with
      shift := backlog.shift.meet index .abort
      dropped :=
        backlog.dropped ++
          (backlog.shift.pool.worker index).delivery?.toList : Backlog }.IsSound := by
  refine sound.meet (.abort alive) rfl (.free ?_) sound.returned fun message member returned => ?_
  · rw [Shift.worker_meet_abort alive]
    rfl
  · rcases sound.left (.abort alive) member returned with own | left
    · refine .inr (List.mem_append_right _ ?_)
      rw [own]
      exact List.mem_singleton_self _
    · exact left.imp_right (List.mem_append_left _)

theorem begin (sound : backlog.IsSound)
    (atPoint : backlog.shift.pool.worker index = .handling delivery) :
    { backlog with shift := backlog.shift.call index : Backlog }.IsSound := by
  refine sound.reshift Shift.taken_call (fun other => ?_) sound.returned sound.dealtWith
  by_cases same : other = index
  · subst same
    have stands := sound.workers other
    rw [atPoint] at stands
    change Stands _ other (backlog.shift.pool.worker other) _
    rw [atPoint]
    refine .handling ?_ stands.isSettled
    change _ ∈ (backlog.shift.call other).taken
    rw [Shift.taken_call]
    exact stands.taken rfl
  · exact (sound.workers other).spared (Shift.spares_call_of_ne same)
      (Shift.taken_call ▸ List.Subset.refl _) (List.Subset.refl _) fun _ _ => rfl

theorem take {rest : List Delivery} (sound : backlog.IsSound)
    (atPoint : backlog.shift.pool.worker index = .waiting)
    (next : backlog.stream = delivery :: rest) : (backlog.take index delivery rest).IsSound := by
  have meets : Meets (backlog.shift.pool.worker index) (.item (.delivery delivery)) :=
    atPoint ▸ .item _
  have taken : (backlog.take index delivery rest).shift.taken =
      backlog.shift.taken ++ [(index, delivery)] := Shift.taken_meet
  have more : backlog.shift.taken ⊆ (backlog.take index delivery rest).shift.taken :=
    taken ▸ List.subset_append_left ..
  have unsettled : backlog.isSettled delivery.tag = false := by
    by_contra settled
    obtain ⟨settlement, told⟩ := sound.flagged delivery.tag (Bool.not_eq_false _ ▸ settled)
    obtain ⟨pair, early, same, -⟩ := sound.told _ _ told
    have apart := (List.nodup_append.mp sound.nodup_taken).2.2
    refine apart pair.2.tag ?_ delivery.tag ?_ same
    · exact List.mem_map_of_mem (List.mem_map_of_mem early)
    · rw [next]
      exact List.mem_cons_self
  refine ⟨?_, sound.tags, sound.account, fun tag settlement told => ?_, sound.flagged,
    fun other => ?_, fun other returned => ?_, fun message member returned => ?_⟩
  · change _ ++ rest = backlog.handed.map Message.delivery
    rw [taken, List.map_append, List.append_assoc, ← sound.streamed, next]
    rfl
  · obtain ⟨pair, early, same⟩ := sound.told tag settlement told
    exact ⟨pair, more early, same⟩
  · by_cases same : other = index
    · subst same
      have own : (backlog.take other delivery rest).shift.pool.worker other = .handling delivery :=
        Shift.worker_meet_delivery atPoint
      rw [own]
      refine .handling ?_ unsettled
      rw [taken]
      exact List.mem_append_right _ (List.mem_singleton_self _)
    · exact (sound.workers other).spared (Shift.spares_meet_of_ne meets same) more
        (List.Subset.refl _) fun _ _ => rfl
  · exact List.map_subset _ more (sound.returned returned)
  · rcases sound.left meets member returned with own | left
    · rw [atPoint] at own
      cases own
    · exact left

theorem giveBack (sound : backlog.IsSound)
    (atPoint : backlog.shift.pool.worker index = .returning delivery) :
    (backlog.giveBack index delivery).IsSound := by
  have stands := sound.workers index
  rw [atPoint] at stands
  have own := stands.taken rfl
  have taken : (backlog.giveBack index delivery).shift.taken = backlog.shift.taken :=
    Shift.taken_call
  have more : backlog.told ⊆ (backlog.giveBack index delivery).told :=
    fun _ early => mem_told_giveBack.mpr (.inl early)
  have tells : ∃ settlement, (delivery.tag, settlement) ∈
      (backlog.giveBack index delivery).told := by
    cases settled : backlog.isSettled delivery.tag with
    | false => exact ⟨_, mem_told_giveBack.mpr (.inr ⟨settled, rfl, rfl⟩)⟩
    | true =>
        obtain ⟨settlement, early⟩ := sound.flagged _ settled
        exact ⟨settlement, more early⟩
  refine ⟨?_, sound.tags, sound.account, fun tag settlement told => ?_, fun tag settled => ?_,
    fun other => ?_, ?_, sound.dealtWith⟩
  · rw [taken]
    exact sound.streamed
  · rw [taken]
    rcases mem_told_giveBack.mp told with early | ⟨-, rfl, rfl⟩
    · exact sound.told tag settlement early
    · exact ⟨_, own, rfl, rfl⟩
  · by_cases same : tag = delivery.tag
    · exact same ▸ tells
    · rw [isSettled_giveBack, Function.update_of_ne same] at settled
      obtain ⟨settlement, early⟩ := sound.flagged tag settled
      exact ⟨settlement, more early⟩
  · by_cases same : other = index
    · subst same
      change Stands _ other (backlog.shift.pool.worker other) _
      rw [atPoint]
      exact .returning (taken ▸ own) fun _ => tells
    · refine (sound.workers other).spared (Shift.spares_call_of_ne same)
        (taken ▸ List.Subset.refl _) more fun handled handling => ?_
      have theirs : (other, handled) ∈ backlog.shift.taken :=
        (sound.workers other).taken (by rw [handling]; rfl)
      rw [isSettled_giveBack]
      refine Function.update_of_ne (fun equal => same ?_) ..
      exact congrArg Prod.fst (sound.eq_of_tag theirs own equal)
  · rw [taken]
    exact sound.returned

theorem step (sound : backlog.IsSound) (step : Step prefetch backlog after) : after.IsSound := by
  cases step with
  | handOut => exact sound.handOut _ _
  | carryOut member => exact sound.carryOut member _
  | bide bides => exact sound.bide bides
  | take index _ atPoint _ next => exact sound.take atPoint next
  | begin index _ _ atPoint => exact sound.begin atPoint
  | fail index error _ _ atPoint => exact sound.fail atPoint error
  | giveBack index _ _ atPoint => exact sound.giveBack atPoint
  | answered index _ calling atPoint answered => exact sound.answered atPoint calling answered
  | abort index _ _ alive => exact sound.abort alive

end IsSound

theorem Steps.isSound (steps : Steps prefetch backlog after) (sound : backlog.IsSound) :
    after.IsSound := by
  induction steps with
  | refl => exact sound
  | tail _ step sound => exact sound.step step

end

end Backlog

end AmqpClient.Consumer
