import AmqpClient.Proofs.Consumer.Run

/-!
# One stream at a time

A consumer leaves a pool only when all of its workers have ended, and asks for sessions
newer than the last one only. So its calls come in the order of the generations, first the
limit and then the subscription of each, and the handler is never called for two streams at
the same time.
-/

set_option autoImplicit false

namespace AmqpClient.Consumer

/-! ## The order of the calls -/

def isLimit : Call → Bool
  | .qos .. => true
  | _ => false

def isSubscription : Call → Bool
  | .consume .. => true
  | _ => false

/-- The place of a call among all calls of a consumer: both calls of a generation follow
those of the generations before. -/
def rank (call : Session × Call) : Nat :=
  2 * call.1.generation + if isLimit call.2 then 0 else 1

private theorem isLimit_of_isSubscription {call : Call} (subscribes : isSubscription call = true) :
    isLimit call = false := by
  cases call <;> first | rfl | cases subscribes

namespace Point

/-- Where the calls that are still to come begin. -/
def bound? (isCalling : Bool) : Point → Option Nat
  | .entry => some 0
  | .awaiting waiter => some (2 * waiter.after + 2)
  | .limiting session _ => some (2 * session.generation + isCalling.toNat)
  | .subscribing session _ => some (2 * session.generation + 1 + isCalling.toNat)
  | .streaming session => some (2 * session.generation + 2)
  | .draining generation _ _ | .aborting generation _ | .pausing generation _ =>
    some (2 * generation + 2)
  | .finished _ => none

private theorem bound?_call {plan : Plan} {point : Point} {session : Session} {call : Call}
    (due : point.session? = some session) (named : point.call? plan = some call) :
    point.bound? false = some (rank (session, call)) ∧
      point.bound? true = some (rank (session, call) + 1) := by
  cases point with
  | limiting | subscribing =>
      cases due
      cases named
      exact ⟨rfl, rfl⟩
  | entry | awaiting | streaming | draining | aborting | pausing | finished => cases due

end Point

section

variable {plan : Plan} {before next : Consumption}

private theorem Proceeds.bound? (proceeds : Proceeds plan before next) (isCalling : Bool)
    {late : Nat}
    (bound : next.point.bound? false = some late) :
    ∃ early, before.point.bound? isCalling = some early ∧ early ≤ late := by
  have atMost : isCalling.toNat ≤ 1 := Bool.toNat_le isCalling
  cases proceeds with
  | begin | report | cutOff | resume | drain =>
      cases bound
      exact ⟨_, rfl, by simp⟩
  | wait same =>
      cases bound
      exact ⟨_, rfl, by omega⟩
  | limit newer =>
      cases bound
      exact ⟨_, rfl, by simp only [Bool.toNat_false]; omega⟩
  | subscribe | stream =>
      cases bound
      exact ⟨_, rfl, by omega⟩
  | @fail point session deadline pool due =>
      cases bound
      cases point with
      | limiting | subscribing =>
          cases due
          exact ⟨_, rfl, by omega⟩
      | entry | awaiting | streaming | draining | aborting | pausing | finished => cases due
  | @leave point generation deadline pool ending =>
      cases bound
      cases point with
      | draining | aborting =>
          cases ending
          exact ⟨_, rfl, Nat.le_refl _⟩
      | entry | awaiting | limiting | subscribing | streaming | pausing | finished => cases ending
  | finish => cases bound

theorem Proceeds.order (proceeds : Proceeds plan before next)
    (same : before.point.opensStream next.point = false) :
    next.pool = before.pool ∨ Shift.Order before.pool next.pool := by
  cases proceeds with
  | begin | wait | limit | subscribe | fail | leave | resume | finish => exact .inl rfl
  | drain => exact .inr (.stop _)
  | report => exact .inr (.report _)
  | cutOff => exact .inr (.cancel _)
  | stream => cases same

theorem Proceeds.opens (proceeds : Proceeds plan before next)
    (opens : before.point.opensStream next.point = true) :
    before.point.hasStream = false ∧
      ∃ stream, next.pool = Pool.spawn plan.queue stream plan.workers := by
  cases proceeds with
  | stream => exact ⟨rfl, _, rfl⟩
  | begin | wait | limit | subscribe | drain | report | cutOff | resume => cases opens
  | @fail point | @leave point | @finish point => cases point <;> cases opens

theorem Proceeds.isOver (proceeds : Proceeds plan before next)
    (alone : before.point.hasStream = false → before.pool.isOver = true)
    (quiet : next.point.hasStream = false) : next.pool.isOver = true := by
  cases proceeds with
  | begin | wait | limit | subscribe | resume => exact alone rfl
  | stream | drain | report | cutOff => cases quiet
  | @fail point session deadline pool due =>
      cases point with
      | limiting | subscribing => exact alone rfl
      | entry | awaiting | streaming | draining | aborting | pausing | finished => cases due
  | leave _ gone => exact gone
  | finish ends => exact ends.elim alone id

end

/-! ## Pools in order -/

/-- What holds of any pool that a consumer with so many workers has opened. -/
structure Shift.IsSound (workers : Nat) (shift : Shift) : Prop where
  orderly : shift.IsOrderly
  recorded : shift.IsRecorded
  few : shift.pool.workers.length ≤ max workers 1

namespace Shift.IsSound

variable {workers : Nat} {shift after : Shift}

theorem fresh (queue : String) (stream : Nat) :
    (Shift.fresh queue stream workers).IsSound workers where
  orderly := isOrderly_fresh queue stream workers
  recorded := isRecorded_fresh queue stream workers
  few := by simp [Shift.fresh, Pool.spawn]

theorem nobody : ({ pool := {} } : Shift).IsSound workers where
  orderly := by
    refine ⟨⟨List.nodup_nil, fun index => ?_⟩, nofun, fun index _ => rfl⟩
    exact ⟨fun member => absurd member List.not_mem_nil, nofun⟩
  recorded := ⟨fun _ => rfl, fun _ => rfl⟩
  few := Nat.zero_le _

theorem step (sound : shift.IsSound workers) (step : shift.Step after) : after.IsSound workers where
  orderly := step.isOrderly sound.orderly
  recorded := sound.recorded.step sound.orderly step
  few := Nat.le_trans (Nat.le_of_eq (step.length_workers sound.orderly)) sound.few

end Shift.IsSound

/-! ## Runs in order -/

namespace Run

structure IsOrderly (plan : Plan) (run : Run) : Prop where
  sound : ∀ shift ∈ run.shifts, shift.IsSound plan.workers
  earlier : ∀ shift ∈ run.earlier, shift.pool.isOver = true
  alone : run.point.hasStream = false → run.shift.pool.isOver = true
  ordered : run.calls.Pairwise fun early late => rank early < rank late
  bounded : ∀ call ∈ run.calls, ∀ bound, run.point.bound? run.isCalling = some bound →
    rank call < bound

section

variable {plan : Plan} {run after : Run} {event : Event}

private theorem mem_shifts {shift : Shift} :
    shift ∈ run.shifts ↔ shift ∈ run.earlier ∨ shift = run.shift := by
  simp [shifts]

private theorem isOrderly_initial : ({} : Run).IsOrderly plan where
  sound shift member := by
    rcases mem_shifts.mp member with old | rfl
    · cases old
    · exact .nobody
  earlier _ member := absurd member List.not_mem_nil
  alone _ := rfl
  ordered := .nil
  bounded _ member := absurd member List.not_mem_nil

namespace IsOrderly

theorem current (orderly : run.IsOrderly plan) : run.shift.IsSound plan.workers :=
  orderly.sound run.shift (mem_shifts.mpr (.inr rfl))

/-- The pools stay in order when the latest one takes a step. -/
theorem shiftStep (orderly : run.IsOrderly plan) {shift : Shift} (step : run.shift.Step shift) :
    { run with shift }.IsOrderly plan where
  sound other member := by
    rcases mem_shifts.mp member with old | rfl
    · exact orderly.sound other (mem_shifts.mpr (.inl old))
    · exact orderly.current.step step
  earlier := orderly.earlier
  alone quiet := step.isOver orderly.current.orderly (orderly.alone quiet)
  ordered := orderly.ordered
  bounded := orderly.bounded

theorem linger (orderly : run.IsOrderly plan) {front back : List Shift} {shift after : Shift}
    (split : run.earlier = front ++ shift :: back) (act : shift.Act after) :
    { run with earlier := front ++ after :: back }.IsOrderly plan := by
  have old : shift ∈ run.earlier := by simp [split]
  have sound := orderly.sound shift (mem_shifts.mpr (.inl old))
  have others {other : Shift} (member : other ∈ front ++ after :: back) :
      other ∈ run.earlier ∨ other = after := by
    rw [split]
    simp only [List.mem_append, List.mem_cons] at member ⊢
    rcases member with inFront | isAfter | inBack
    · exact .inl (.inl inFront)
    · exact .inr isAfter
    · exact .inl (.inr (.inr inBack))
  refine ⟨fun other member => ?_, fun other member => ?_, orderly.alone, orderly.ordered,
    orderly.bounded⟩
  · rcases mem_shifts.mp member with old | rfl
    · rcases others old with old | rfl
      · exact orderly.sound other (mem_shifts.mpr (.inl old))
      · exact sound.step (.act act)
    · exact orderly.current
  · rcases others member with old | rfl
    · exact orderly.earlier other old
    · exact (Shift.Step.act act).isOver sound.orderly (orderly.earlier shift old)

theorem moveTo (orderly : run.IsOrderly plan) {next : Consumption}
    (proceeds : Proceeds plan run.consumption next) :
    { run.moveTo next with isCalling := false }.IsOrderly plan := by
  have calls : ∀ call ∈ run.calls, ∀ bound, next.point.bound? false = some bound →
      rank call < bound := by
    intro call member bound after
    obtain ⟨early, before, grows⟩ := proceeds.bound? run.isCalling after
    exact Nat.lt_of_lt_of_le (orderly.bounded call member early before) grows
  cases opens : run.point.opensStream next.point with
  | true =>
      obtain ⟨quiet, stream, pool⟩ := proceeds.opens opens
      rw [Run.moveTo, if_pos opens]
      refine ⟨fun shift member => ?_, fun shift member => ?_, fun noStream => ?_, orderly.ordered,
        calls⟩
      · rcases mem_shifts.mp member with old | rfl
        · exact orderly.sound shift old
        · change Shift.IsSound _ { pool := next.pool }
          rw [pool]
          exact .fresh plan.queue stream
      · rcases mem_shifts.mp member with old | rfl
        · exact orderly.earlier shift old
        · exact orderly.alone quiet
      · exact proceeds.isOver orderly.alone noStream
  | false =>
      rw [Run.moveTo, if_neg (by rw [opens]; exact Bool.false_ne_true)]
      have shift : ({ run.shift with pool := next.pool } : Shift).IsSound plan.workers := by
        rcases proceeds.order opens with same | order
        · rw [same]
          exact orderly.current
        · exact orderly.current.step (.order order)
      refine ⟨fun other member => ?_, orderly.earlier, proceeds.isOver orderly.alone,
        orderly.ordered, calls⟩
      rcases mem_shifts.mp member with old | rfl
      · exact orderly.sound other (mem_shifts.mpr (.inl old))
      · exact shift

theorem makeCall (orderly : run.IsOrderly plan) {session : Session} {call : Call}
    (idle : run.isCalling = false) (due : run.point.session? = some session)
    (named : run.point.call? plan = some call) : (run.makeCall session call).IsOrderly plan := by
  obtain ⟨before, after⟩ := Point.bound?_call due named
  have older : ∀ earlier ∈ run.calls, rank earlier < rank (session, call) := fun earlier member =>
    orderly.bounded earlier member _ (idle ▸ before)
  refine ⟨orderly.sound, orderly.earlier, orderly.alone, ?_, fun made member bound at_ => ?_⟩
  · refine List.pairwise_append.mpr ⟨orderly.ordered, List.pairwise_singleton .., ?_⟩
    intro earlier member latest isLatest
    rw [List.mem_singleton.mp isLatest]
    exact older earlier member
  · cases after.symm.trans at_
    rcases List.mem_append.mp member with old | latest
    · exact Nat.lt_succ_of_lt (older made old)
    · rw [List.mem_singleton.mp latest]
      exact Nat.lt_succ_self _

theorem step (orderly : run.IsOrderly plan) (step : Step plan run after) :
    after.IsOrderly plan := by
  cases step with
  | around =>
      exact ⟨orderly.sound, orderly.earlier, orderly.alone, orderly.ordered, orderly.bounded⟩
  | poll =>
      exact ⟨orderly.sound, orderly.earlier, orderly.alone, orderly.ordered, orderly.bounded⟩
  | work _ work =>
      cases work with
      | meet occurs =>
          have moved := orderly.moveTo occurs.proceeds
          exact ⟨moved.sound, moved.earlier, moved.alone, moved.ordered, moved.bounded⟩
      | overlook =>
          exact ⟨orderly.sound, orderly.earlier, orderly.alone, orderly.ordered, orderly.bounded⟩
      | call idle _ due named => exact orderly.makeCall idle due named
  | drop =>
      have cancelled := orderly.shiftStep (.order (.cancel _))
      exact ⟨cancelled.sound, cancelled.earlier, cancelled.alone, cancelled.ordered,
        cancelled.bounded⟩
  | act act => exact orderly.shiftStep (.act act)
  | linger split act => exact orderly.linger split act

end IsOrderly

private theorem isOrderly_of_steps (steps : Steps plan {} run) : run.IsOrderly plan := by
  induction steps with
  | refl => exact isOrderly_initial
  | tail _ step orderly => exact orderly.step step

end

/-! ## The sessions that a consumer takes -/

/-- The sessions on whose channels a call of some kind was made, in the order of the calls. -/
def sessions (kind : Call → Bool) (run : Run) : List Session :=
  (run.calls.filter fun call => kind call.2).map (·.1)

structure TakesTurns (plan : Plan) (run : Run) : Prop where
  limits : (run.sessions isLimit).Pairwise fun early late => early.generation < late.generation
  subscribes : (run.sessions isSubscription).Pairwise fun early late =>
    early.generation < late.generation
  /-- Whenever a channel is asked for anything, nothing is left of any stream before. -/
  alone : ∀ call, run.point.call? plan = some call →
    ∀ shift ∈ run.shifts, shift.pool.isOver = true ∧ shift.begun.Perm shift.ended
  accounts : ∀ shift ∈ run.shifts, shift.begun.Perm (shift.ended ++ shift.allRunning)
  few : (run.shifts.flatMap Shift.allRunning).length ≤ max plan.workers 1

private theorem hasStream_of_call? {plan : Plan} {point : Point} {call : Call}
    (due : point.call? plan = some call) : point.hasStream = false := by
  cases point with
  | limiting | subscribing => rfl
  | entry | awaiting | streaming | draining | aborting | pausing | finished => cases due

private theorem IsOrderly.sessions_pairwise {plan : Plan} {run : Run} (orderly : run.IsOrderly plan)
    {kind : Call → Bool} {first : Bool} (alike : ∀ call, kind call = true → isLimit call = first) :
    (run.sessions kind).Pairwise fun early late => early.generation < late.generation := by
  refine List.pairwise_map.mpr (List.pairwise_filter.mpr ?_)
  refine orderly.ordered.imp fun {early late} before isKind isKindToo => ?_
  unfold rank at before
  rw [alike _ isKind, alike _ isKindToo] at before
  omega

theorem takesTurns_of_steps (plan : Plan) {run : Run} (steps : Steps plan {} run) :
    run.TakesTurns plan := by
  have orderly := isOrderly_of_steps steps
  refine ⟨orderly.sessions_pairwise fun _ => id,
    orderly.sessions_pairwise fun _ => isLimit_of_isSubscription,
    fun call due shift member => ?_, fun shift member => ?_, ?_⟩
  · have gone : shift.pool.isOver = true := by
      rcases mem_shifts.mp member with old | rfl
      · exact orderly.earlier shift old
      · exact orderly.alone (hasStream_of_call? due)
    have accounts := (orderly.sound shift member).recorded.begun_perm_ended
    rw [Shift.allRunning_eq_nil gone, List.append_nil] at accounts
    exact ⟨gone, accounts⟩
  · exact (orderly.sound shift member).recorded.begun_perm_ended
  · have quiet : run.earlier.flatMap Shift.allRunning = [] :=
      List.flatMap_eq_nil_iff.mpr fun shift old =>
        Shift.allRunning_eq_nil (orderly.earlier shift old)
    rw [shifts, List.flatMap_append, quiet, List.nil_append, List.flatMap_singleton]
    exact Nat.le_trans Shift.length_allRunning_le orderly.current.few

/-- Two workers for one queue. -/
def pair : Plan :=
  { queue := "orders", channelTimeout := 10, workers := 2 }

def firstSession : Session :=
  { generation := 1, connection := 1, channel := 1 }

def sessionReady : Run :=
  { ({} : Run).meet pair .begin with
    cells := { session := some firstSession, sessionVersion := 1 } }

def limiting : Run :=
  (sessionReady.meet pair .woken).turn.makeCall firstSession (.qos 1 50)

/-- The first session has a stream. -/
def streamOpened : Run :=
  let subscribing :=
    (limiting.meet pair (.replied (.ok .done))).makeCall firstSession
      (.consume 1 "orders" "rmq-tag")
  subscribing.meet pair (.replied (.ok (.stream 5)))

/-- The handler has a delivery of the first stream. -/
def handlingFirst : Run :=
  let standing := (streamOpened.shift.meet 0 .join).setLooks false 0
  { streamOpened with shift := (standing.meet 0 (.item (.delivery { tag := 7 }))).call 0 }

private theorem steps_streamOpened : Steps pair {} streamOpened := by
  have begun : Step pair {} (({} : Run).meet pair .begin) :=
    .work rfl (.meet (.interrupt rfl rfl))
  have ready : Step pair (({} : Run).meet pair .begin) sessionReady :=
    .around _ { connection := fun _ => {}, channel := fun _ => {} } _ 0
  have woken : Step pair sessionReady (sessionReady.meet pair .woken) :=
    .work rfl (.meet (.interrupt rfl rfl))
  have limits : Steps pair {} limiting :=
    ((((Relation.ReflTransGen.single begun).tail ready).tail woken).tail
      (.work rfl (.overlook rfl rfl))).tail (.work rfl (.call rfl rfl rfl rfl))
  have accepted : Step pair limiting (limiting.meet pair (.replied (.ok .done))) :=
    .work rfl (.meet (.reply rfl rfl rfl (by rintro answer ⟨⟩; rfl)))
  have subscribes := (limits.tail accepted).tail (.work rfl (.call rfl rfl rfl rfl))
  exact subscribes.tail (.work rfl (.meet (.reply rfl rfl rfl (by rintro answer ⟨⟩; rfl))))

private theorem steps_handlingFirst : Steps pair {} handlingFirst := by
  have join : streamOpened.shift.Act (streamOpened.shift.meet 0 .join) := .work (.look rfl rfl)
  have stand : (streamOpened.shift.meet 0 .join).Act
      ((streamOpened.shift.meet 0 .join).setLooks false 0) := .work (.overlook rfl rfl)
  have take : ((streamOpened.shift.meet 0 .join).setLooks false 0).Act
      (((streamOpened.shift.meet 0 .join).setLooks false 0).meet 0
        (.item (.delivery { tag := 7 }))) := .work (.ask _ rfl rfl rfl)
  have call : (((streamOpened.shift.meet 0 .join).setLooks false 0).meet 0
      (.item (.delivery { tag := 7 }))).Act handlingFirst.shift := .work (.call rfl rfl rfl)
  exact (((steps_streamOpened.tail (.act join)).tail (.act stand)).tail (.act take)).tail
    (.act call)

theorem takesTurns_of_steps_handling :
    Steps pair {} handlingFirst ∧
      handlingFirst.shift.allRunning = [(0, { tag := 7 })] ∧
      handlingFirst.sessions isSubscription = [firstSession] ∧ handlingFirst.TakesTurns pair :=
  ⟨steps_handlingFirst, rfl, rfl, takesTurns_of_steps pair steps_handlingFirst⟩

end Run

end AmqpClient.Consumer
