import AmqpClient.Proofs.Consumer.Backlog

/-!
# No message goes round for ever

A message that was not delivered before can be handed out twice, any other once more: the
first failure brings it back to its queue, marked, and the next one takes it away for good. What
all messages are still good for, with what was settled so far, never changes. So the handler
is called only so often, whatever the order of things.
-/

set_option autoImplicit false

namespace AmqpClient.Consumer

/-- How often a delivery can be handled if the handler fails every time. -/
def lives (delivery : Delivery) : Nat :=
  if delivery.redelivered then 1 else 2

namespace Backlog

/-! ## What messages are good for -/

/-- How often messages of some numbers can still be handed out. -/
def weight (kind : Nat → Bool) : List Message → Nat
  | [] => 0
  | message :: rest =>
    (if kind message.number then lives message.delivery else 0) + weight kind rest

section

variable {kind : Nat → Bool} {first : Nat}

@[simp] theorem weight_nil : weight kind [] = 0 := rfl

@[simp] theorem weight_cons (message : Message) (rest : List Message) :
    weight kind (message :: rest) =
      (if kind message.number then lives message.delivery else 0) + weight kind rest := rfl

@[simp] theorem weight_append (early late : List Message) :
    weight kind (early ++ late) = weight kind early + weight kind late := by
  induction early with
  | nil => exact (Nat.zero_add _).symm
  | cons message rest ih => rw [List.cons_append, weight_cons, ih, weight_cons, Nat.add_assoc]

private theorem weight_perm {early late : List Message} (perm : early.Perm late) :
    weight kind early = weight kind late := by
  induction perm with
  | nil => rfl
  | cons message _ ih => rw [weight_cons, weight_cons, ih]
  | swap first second rest =>
      rw [weight_cons, weight_cons, weight_cons, weight_cons, Nat.add_left_comm]
  | trans _ _ early late => exact early.trans late

private theorem one_le_lives (delivery : Delivery) : 1 ≤ lives delivery := by
  unfold lives
  split <;> decide

private theorem lives_le_two (delivery : Delivery) : lives delivery ≤ 2 := by
  unfold lives
  split <;> decide

/-- Every message that can be handed out counts. -/
theorem countP_le_weight (kind : Nat → Bool) (messages : List Message) :
    messages.countP (fun message => kind message.number) ≤ weight kind messages := by
  induction messages with
  | nil => exact Nat.zero_le _
  | cons message rest ih =>
      have some := one_le_lives message.delivery
      rw [List.countP_cons, weight_cons]
      split <;> omega

/-- A failure takes one life of a message. -/
theorem weight_restored (kind : Nat → Bool) (message : Message) :
    weight kind (message.restored message.delivery.automaticSettlement) +
        (if kind message.number then 1 else 0) =
      if kind message.number then lives message.delivery else 0 := by
  unfold Message.restored Delivery.automaticSettlement Settlement.requeues lives
  cases message.delivery.redelivered with
  | true => simp
  | false => cases known : kind message.number <;> simp [Message.redelivered, lives, known]

/-! ### The messages of a queue at first -/

private theorem weight_numbered_all (contents : List Delivery) :
    weight (fun _ => true) (numbered first contents) =
      2 * contents.countP (fun delivery => !delivery.redelivered) +
        contents.countP (fun delivery => delivery.redelivered) := by
  induction contents generalizing first with
  | nil => rfl
  | cons delivery rest ih =>
      rw [numbered, weight_cons, ih, List.countP_cons, List.countP_cons, lives]
      cases delivery.redelivered <;> simp <;> omega

private theorem weight_numbered_eq_zero {contents : List Delivery}
    (apart : ∀ index, index < contents.length → kind (first + index) = false) :
    weight kind (numbered first contents) = 0 := by
  induction contents generalizing first with
  | nil => rfl
  | cons delivery rest ih =>
      have head : kind first = false := apart 0 (Nat.succ_pos _)
      rw [numbered, weight_cons, head, ih fun index inside => ?_]
      · rfl
      · rw [Nat.add_assoc, Nat.add_comm 1]
        exact apart (index + 1) (Nat.succ_lt_succ inside)

/-- A message by its number is good for the lives that it has, and no others count. -/
theorem weight_numbered (first number : Nat) (contents : List Delivery) :
    weight (fun other => other = first + number) (numbered first contents) =
      (contents[number]?.map lives).getD 0 := by
  induction contents generalizing first number with
  | nil => rfl
  | cons delivery rest ih =>
      rw [numbered, weight_cons]
      cases number with
      | zero =>
          have others : weight (fun other => other = first + 0) (numbered (first + 1) rest) = 0 :=
            weight_numbered_eq_zero fun index _ => by simp; omega
          rw [others]
          simp
      | succ number =>
          have later : first + (number + 1) = first + 1 + number := by omega
          have apart : decide (first = first + 1 + number) = false := decide_eq_false (by omega)
          rw [later, ih, apart]
          simp

end

/-! ## The balance of a backlog -/

section

variable {prefetch : Nat} {backlog after : Backlog} {kind : Nat → Bool} {contents : List Delivery}

/-- What was settled, and what the messages are still good for, make up what they were good
for at first. -/
def IsBalanced (kind : Nat → Bool) (contents : List Delivery) (backlog : Backlog) : Prop :=
  backlog.settled.countP (fun message => kind message.number) +
      weight kind (backlog.queue ++ backlog.unsettled) =
    weight kind (numbered 0 contents)

private theorem isBalanced_start (name : String) (stream count : Nat) :
    (start name stream count contents).IsBalanced kind contents := by
  rw [IsBalanced, start, List.append_nil]
  exact Nat.zero_add _

theorem IsBalanced.step (balanced : backlog.IsBalanced kind contents) (sound : backlog.IsSound)
    (step : Step prefetch backlog after) : after.IsBalanced kind contents := by
  cases step with
  | @handOut message rest queued =>
      have queue : weight kind backlog.queue = weight kind [message] + weight kind rest :=
        (weight_perm queued).trans (weight_append [message] rest)
      have handed : weight kind [message.tagged (backlog.handed.length + 1)] =
          weight kind [message] := rfl
      refine Eq.trans ?_ balanced
      simp only [handOut, weight_append, queue, handed]
      omega
  | @carryOut message settlement queue member told back =>
      -- The only step that takes a life: what comes back is worth one less than what went.
      have automatic := sound.settlement_eq (sound.mem_handed_of_unsettled member) told
      have taken : weight kind backlog.unsettled = _ := weight_perm (List.perm_cons_erase member)
      have restored := weight_restored kind message
      refine Eq.trans ?_ balanced
      simp only [carryOut, List.countP_append, List.countP_singleton, weight_append,
        weight_perm back, taken, weight_cons, automatic]
      omega
  | bide | take | begin | fail | giveBack | answered | abort => exact balanced

private theorem Steps.isBalanced (steps : Steps prefetch backlog after) (sound : backlog.IsSound)
    (balanced : backlog.IsBalanced kind contents) : after.IsBalanced kind contents := by
  induction steps with
  | refl => exact balanced
  | tail early step balanced => exact balanced.step (Steps.isSound early sound) step

/-- Messages are handed out only so often as they are good for. -/
theorem IsBalanced.countP_handed_le (balanced : backlog.IsBalanced kind contents)
    (sound : backlog.IsSound) :
    backlog.handed.countP (fun message => kind message.number) ≤
      weight kind (numbered 0 contents) := by
  have waiting := countP_le_weight kind backlog.unsettled
  rw [sound.account.countP_eq, List.countP_append, ← balanced, weight_append]
  omega

/-- The handler is called for nothing but what was handed out, and once for each. -/
theorem IsSound.begun_subperm_handed (sound : backlog.IsSound)
    (recorded : backlog.shift.IsRecorded) :
    (backlog.shift.begun.map Prod.snd).Subperm (backlog.handed.map Message.delivery) := by
  obtain ⟨begun, perm, sublist⟩ := recorded.begun_subperm_taken
  rw [← sound.streamed]
  exact ⟨begun.map Prod.snd, perm.map _,
    (sublist.map _).trans (List.sublist_append_left _ _)⟩

private theorem IsSound.handlings_le (sound : backlog.IsSound) (recorded : backlog.shift.IsRecorded)
    (number : Nat) :
    backlog.handlings number ≤ backlog.handed.countP (fun message => message.number = number) := by
  let isOf (delivery : Delivery) : Bool := ({ number, delivery } : Message) ∈ backlog.handed
  calc backlog.handlings number
      = (backlog.shift.begun.map Prod.snd).countP isOf := by rw [List.countP_map]; rfl
    _ ≤ (backlog.handed.map Message.delivery).countP isOf :=
        (sound.begun_subperm_handed recorded).countP_le isOf
    _ = backlog.handed.countP fun message => isOf message.delivery := List.countP_map
    _ ≤ backlog.handed.countP fun message => message.number = number :=
        List.countP_mono_left fun message member is => by
          have same : ({ number, delivery := message.delivery } : Message) = message :=
            List.inj_on_of_nodup_map (List.Nodup.of_map _ sound.nodup_tags)
              (of_decide_eq_true is) member rfl
          exact decide_eq_true (congrArg Message.number same).symm

end

/-! ## The end of all failures -/

/-- What a handler that always fails makes of a queue. -/
structure WearsOut (contents : List Delivery) (backlog : Backlog) : Prop where
  bounded : backlog.shift.begun.length ≤
    2 * contents.countP (fun delivery => !delivery.redelivered) +
      contents.countP (fun delivery => delivery.redelivered)
  /-- Every handling is one of a message of the queue. -/
  known : ∀ pair ∈ backlog.shift.begun, ∃ number < contents.length,
    ({ number, delivery := pair.2 } : Message) ∈ backlog.handed
  twice : ∀ number, backlog.handlings number ≤ 2
  once : ∀ number delivery, contents[number]? = some delivery → delivery.redelivered = true →
    backlog.handlings number ≤ 1
  /-- What was delivered before is not put back again. -/
  spent : ∀ message ∈ backlog.handed, message.delivery.redelivered = true →
    ∀ settlement, (message.delivery.tag, settlement) ∈ backlog.told → settlement = .nack false
  /-- Once the handler has returned, only a worker that is cut off leaves a delivery unsettled. -/
  dealtWith : ∀ message ∈ backlog.unsettled, message.delivery ∈ backlog.returned →
    (∃ index, backlog.shift.pool.worker index = .returning message.delivery) ∨
      message.delivery ∈ backlog.dropped
  released : (∀ index delivery, backlog.shift.pool.worker index ≠ .returning delivery) →
    backlog.dropped = [] →
    backlog.unsettled.countP (fun message => message.delivery ∈ backlog.returned) = 0

section

variable {name : String} {stream count prefetch : Nat} {contents : List Delivery}
  {backlog : Backlog}

private theorem isSound_of_steps
    (steps : Steps prefetch (start name stream count contents) backlog) :
    backlog.IsSound :=
  steps.isSound (isSound_start name stream count contents)

private theorem isRecorded_of_steps
    (steps : Steps prefetch (start name stream count contents) backlog) :
    backlog.shift.IsRecorded :=
  steps.shift.isRecorded (Shift.isOrderly_fresh name stream count)
    (Shift.isRecorded_fresh name stream count)

private theorem countP_handed_le (steps : Steps prefetch (start name stream count contents) backlog)
    (kind : Nat → Bool) :
    backlog.handed.countP (fun message => kind message.number) ≤
      weight kind (numbered 0 contents) :=
  (steps.isBalanced (isSound_start name stream count contents)
    (isBalanced_start name stream count)).countP_handed_le (isSound_of_steps steps)

private theorem length_begun_le
    (steps : Steps prefetch (start name stream count contents) backlog) :
    backlog.shift.begun.length ≤
      2 * contents.countP (fun delivery => !delivery.redelivered) +
        contents.countP (fun delivery => delivery.redelivered) := by
  have handed := countP_handed_le steps fun _ => true
  rw [List.countP_true, weight_numbered_all] at handed
  have begun :=
    ((isSound_of_steps steps).begun_subperm_handed (isRecorded_of_steps steps)).length_le
  rw [List.length_map, List.length_map] at begun
  exact Nat.le_trans begun handed

private theorem handlings_le_lives
    (steps : Steps prefetch (start name stream count contents) backlog)
    (number : Nat) : backlog.handlings number ≤ (contents[number]?.map lives).getD 0 := by
  have begun := (isSound_of_steps steps).handlings_le (isRecorded_of_steps steps) number
  have handed := countP_handed_le steps fun other => other = 0 + number
  rw [weight_numbered, Nat.zero_add] at handed
  exact Nat.le_trans begun handed

private theorem lt_of_handed (steps : Steps prefetch (start name stream count contents) backlog)
    {message : Message} (member : message ∈ backlog.handed) :
    message.number < contents.length := by
  by_contra outside
  have none := countP_handed_le steps fun other => contents.length ≤ other
  rw [weight_numbered_eq_zero fun index inside => by simpa using inside] at none
  have others := List.countP_eq_zero.mp (Nat.le_zero.mp none) _ member
  exact others (by simpa using outside)

theorem wearsOut_of_steps (steps : Steps prefetch (start name stream count contents) backlog) :
    backlog.WearsOut contents := by
  have sound := isSound_of_steps steps
  refine ⟨length_begun_le steps, fun pair begun => ?_, fun number => ?_,
    fun number delivery found marked => ?_, fun message member marked settlement told => ?_,
    sound.dealtWith, fun moved kept => ?_⟩
  · have given := (sound.begun_subperm_handed (isRecorded_of_steps steps)).subset
      (List.mem_map_of_mem begun)
    obtain ⟨message, member, same⟩ := List.mem_map.mp given
    exact ⟨message.number, lt_of_handed steps member, same ▸ member⟩
  · refine Nat.le_trans (handlings_le_lives steps number) ?_
    cases contents[number]? with
    | none => exact Nat.zero_le _
    | some delivery => exact lives_le_two delivery
  · have few := handlings_le_lives steps number
    rw [found] at few
    simpa [lives, marked] using few
  · rw [sound.settlement_eq member told, Delivery.automaticSettlement, marked]
    rfl
  · refine List.countP_eq_zero.mpr fun message member returned => ?_
    rcases sound.dealtWith message member (of_decide_eq_true returned) with ⟨index, back⟩ | dropped
    · exact moved index _ back
    · rw [kept] at dropped
      cases dropped

end

/-! ## One message and one worker -/

/-- The worker takes what was handed out, fails and gives it back. -/
def oneRound (message : Message) (backlog : Backlog) : Backlog :=
  let handed := message.tagged (backlog.handed.length + 1)
  let queued := backlog.handOut message []
  let asking : Backlog :=
    { queued with shift := (queued.shift.meet 0 .join).setLooks false 0 }
  let taken := asking.take 0 handed.delivery []
  let begun : Backlog := { taken with shift := taken.shift.call 0 }
  (begun.fail 0 handed.delivery .internal).giveBack 0 handed.delivery

/-- The broker has carried out what it was told, and the worker is free. -/
def answeredRound (message : Message) (queue : List Message) (backlog : Backlog) : Backlog :=
  let carriedOut := backlog.carryOut message queue
  { carriedOut with shift := carriedOut.shift.meet 0 (.settled (.ok ())) }

def oneMessage : Backlog :=
  start "jobs" 1 1 [{ tag := 0 }]

def requeued : Backlog :=
  (oneMessage.oneRound { number := 0, delivery := { tag := 0 } }).answeredRound
    { number := 0, delivery := { tag := 1 } }
    [{ number := 0, delivery := { tag := 1, redelivered := true } }]

def wornOut : Backlog :=
  (requeued.oneRound { number := 0, delivery := { tag := 1, redelivered := true } }).answeredRound
    { number := 0, delivery := { tag := 2, redelivered := true } } []

private theorem steps_requeued : Steps 1 oneMessage requeued := by
  have handed : Steps 1 oneMessage
      (oneMessage.handOut { number := 0, delivery := { tag := 0 } } []) :=
    .single (.handOut (.refl _) (.inr (by decide)))
  have asking := (handed.tail (.bide (.look 0 rfl rfl))).tail (.bide (.overlook 0 rfl rfl))
  have begun := (asking.tail (.take 0 rfl rfl rfl rfl)).tail (.begin 0 rfl rfl rfl)
  have given := (begun.tail (.fail 0 .internal rfl rfl rfl)).tail (.giveBack 0 rfl rfl rfl)
  have carriedOut := given.tail (.carryOut (List.mem_singleton_self _)
    (List.mem_singleton_self _) (.refl _))
  exact carriedOut.tail (.answered 0 rfl rfl rfl nofun)

private theorem steps_wornOut : Steps 1 requeued wornOut := by
  have handed : Steps 1 requeued
      (requeued.handOut { number := 0, delivery := { tag := 1, redelivered := true } } []) :=
    .single (.handOut (.refl _) (.inr (by decide)))
  have asking := (handed.tail (.bide (.look 0 rfl rfl))).tail (.bide (.overlook 0 rfl rfl))
  have begun := (asking.tail (.take 0 rfl rfl rfl rfl)).tail (.begin 0 rfl rfl rfl)
  have given := (begun.tail (.fail 0 .internal rfl rfl rfl)).tail (.giveBack 0 rfl rfl rfl)
  have carriedOut := given.tail (.carryOut (List.mem_singleton_self _)
    (List.mem_cons_of_mem _ (List.mem_singleton_self _)) (.refl _))
  exact carriedOut.tail (.answered 0 rfl rfl rfl nofun)

theorem wearsOut_of_steps_wornOut :
    Steps 1 (start "jobs" 1 1 [{ tag := 0 }]) wornOut ∧ wornOut.shift.begun.length = 2 ∧
      wornOut.queue = [] ∧ wornOut.unsettled = [] ∧
      wornOut.told = [(1, .nack true), (2, .nack false)] ∧ wornOut.WearsOut [{ tag := 0 }] :=
  ⟨steps_requeued.trans steps_wornOut, rfl, rfl, rfl, rfl,
    wearsOut_of_steps (steps_requeued.trans steps_wornOut)⟩

end Backlog

end AmqpClient.Consumer
