import AmqpClient.Proofs.Consumer.Settlement
import AmqpClient.Proofs.Simulation.Workers

/-!
# Simulated settlements make steps of a custody

Whoever settles a delivery in the simulation, its handler, its worker or somebody in the
foreground, does no more than one who has the delivery in hand. So what holds of every
custody holds of the deliveries that are handled.
-/

set_option autoImplicit false

namespace AmqpClient.Simulation

open Consumer (Custody Consumption WorkerEvent WorkerPoint)

/-! ## The flag of a delivery -/

namespace World

variable {world : World} {tag other : Nat}

private theorem isSettled_setSettled (known : ∃ entry ∈ world.seen, entry.delivery.tag = tag) :
    (world.setSettled tag true).isSettled tag = true := by
  obtain ⟨entry, member, same⟩ := known
  unfold isSettled setSettled
  rw [List.any_map, List.any_eq_true]
  refine ⟨entry, member, ?_⟩
  simp [same]

private theorem isSettled_setSettled_ne (flag : Bool) (apart : other ≠ tag) :
    (world.setSettled tag flag).isSettled other = world.isSettled other := by
  unfold isSettled setSettled
  rw [List.any_map]
  refine congrArg (world.seen.any ·) (funext fun entry => ?_)
  dsimp only [Function.comp]
  split
  · next same => simp [same, Ne.symm apart]
  · rfl

private theorem known_setSettled (flag : Bool)
    (known : ∃ entry ∈ world.seen, entry.delivery.tag = other) :
    ∃ entry ∈ (world.setSettled tag flag).seen, entry.delivery.tag = other := by
  obtain ⟨entry, member, same⟩ := known
  refine ⟨_, List.mem_map_of_mem member, ?_⟩
  split <;> exact same

end World

/-- A custody has the flag of a delivery that was handed out, and nobody is between the flag and
the broker. -/
structure Flags (world : World) (tag : Nat) (custody : Custody) : Prop where
  flag : custody.isSettled = world.isSettled tag
  known : ∃ entry ∈ world.seen, entry.delivery.tag = tag
  called : custody.calling? = none

section

variable {world after : World} {delivery : Delivery} {custody : Custody} {index : Nat}
  {settlement : Settlement}

private theorem Flags.isMidway_eq {tag : Nat} (flags : Flags world tag custody) :
    custody.isMidway = false := by
  rw [Custody.isMidway, flags.called]

theorem Flags.answered {tag : Nat} (settler : Custody.Settler) (flags : Flags world tag custody)
    (route : (settle (world.isSettled tag) settlement).1 = .answered) :
    world.isSettled tag = true ∧ Flags world tag (custody.attempt settler settlement) := by
  have settled : world.isSettled tag = true := by
    cases flag : world.isSettled tag with
    | true => rfl
    | false =>
        rw [flag] at route
        cases route
  have flag := flags.flag.trans settled
  rw [Custody.attempt_of_isSettled flag]
  refine ⟨settled, ?_, flags.known, ?_⟩
  · rw [Custody.isSettled_claim, settled]
  · rw [Custody.claim_of_isSettled flag]
    exact flags.called

theorem Flags.forwarded {tag : Nat} {told : Settlement} (settler : Custody.Settler)
    (flags : Flags world tag custody)
    (route : (settle (world.isSettled tag) settlement).1 = .forwarded told) :
    world.isSettled tag = false ∧
      Flags (world.beginSettlement tag told).1 tag (custody.attempt settler settlement) ∧
      settler ∈ (custody.attempt settler settlement).pending := by
  have unsettled : world.isSettled tag = false := by
    cases flag : world.isSettled tag with
    | true =>
        rw [flag] at route
        cases route
    | false => rfl
  rw [Custody.attempt_of_unsettled (flags.flag.trans unsettled)]
  refine ⟨unsettled, ⟨?_, World.known_setSettled true flags.known, rfl⟩, List.mem_cons_self⟩
  exact Custody.isSettled_claim.trans (World.isSettled_setSettled flags.known).symm

private theorem isGivingBack_attempt (settler : Custody.Settler) :
    (custody.attempt settler settlement).isGivingBack = custody.isGivingBack := by
  cases settled : custody.isSettled with
  | true => rw [Custody.attempt_of_isSettled settled, Custody.isGivingBack_claim]
  | false =>
      rw [Custody.attempt_of_unsettled settled]
      exact Custody.isGivingBack_claim

private theorem pool_attempt (settler : Custody.Settler) :
    (custody.attempt settler settlement).pool = custody.pool := by
  cases settled : custody.isSettled with
  | true => rw [Custody.attempt_of_isSettled settled, Custody.pool_claim]
  | false =>
      rw [Custody.attempt_of_unsettled settled]
      exact Custody.pool_claim

/-- Whoever may raise the flag comes to the broker at once. -/
theorem steps_attempt {settler : Custody.Settler}
    (claimed : Custody.Step index delivery custody (custody.claim settler settlement)) :
    Custody.Steps index delivery custody (custody.attempt settler settlement) := by
  cases settled : custody.isSettled with
  | true =>
      rw [Custody.attempt_of_isSettled settled]
      exact .single claimed
  | false =>
      rw [Custody.attempt_of_unsettled settled]
      refine (Relation.ReflTransGen.single claimed).tail (.forward ?_)
      rw [Custody.claim_of_unsettled settled]

/-! ## Handlers -/

/-- Whether a handler waits for the broker's answer. -/
def HandlerRun.awaitsBroker (run : HandlerRun) : Bool :=
  match run.phase with
  | .acknowledging .. => true
  | .delayed _ | .settling _ | .leaving _ => false

def HandlerStep.run? : HandlerStep → Option HandlerRun
  | .running _ run => some run
  | .waiting | .returned .. => none

/-- A custody has taken the steps that bring it to where a handler has come. -/
structure HandlingArrives (index : Nat) (delivery : Delivery) (world : World)
    (run? : Option HandlerRun) (custody next : Custody) : Prop where
  steps : Custody.Steps index delivery custody next
  flags : Flags world delivery.tag next
  pool : next.pool = custody.pool
  isGivingBack : next.isGivingBack = custody.isGivingBack
  owed : ∀ run, run? = some run → run.awaitsBroker = true →
    Custody.Settler.handler ∈ next.pending

private theorem exists_handlingArrives {run : HandlerRun} {stepped : HandlerStep}
    (flags : Flags world delivery.tag custody)
    (point : custody.pool.worker index = .handling delivery)
    (owed : run.awaitsBroker = true → Custody.Settler.handler ∈ custody.pending)
    (taken : stepHandler world delivery.tag run = stepped) (left : stepped.world? = some after) :
    ∃ next, HandlingArrives index delivery after stepped.run? custody next := by
  unfold stepHandler at taken
  dsimp only at taken
  split at taken
  · split at taken
    · cases taken
      cases left
    · cases taken
      cases left
      exact ⟨custody, .refl, flags, rfl, rfl, by rintro _ ⟨⟩ ⟨⟩⟩
  · cases taken
    cases left
    exact ⟨custody, .refl, flags, rfl, rfl, by rintro _ ⟨⟩ ⟨⟩⟩
  · next settlement remaining phase =>
    have steps : Custody.Steps index delivery custody (custody.attempt .handler settlement) :=
      steps_attempt (.claimHandling settlement point flags.isMidway_eq)
    split at taken
    · next route =>
      cases taken
      cases left
      obtain ⟨-, flags⟩ := flags.answered .handler route
      exact ⟨_, steps, ⟨flags.flag, flags.known, flags.called⟩, pool_attempt _,
        isGivingBack_attempt _, by rintro _ ⟨⟩ ⟨⟩⟩
    · next told route =>
      cases taken
      cases left
      obtain ⟨-, flags, owes⟩ := flags.forwarded .handler route
      exact ⟨_, steps, flags, pool_attempt _, isGivingBack_attempt _, fun _ _ _ => owes⟩
  · next settlement play remaining phase =>
    have pending := owed (by simp [HandlerRun.awaitsBroker, phase])
    split at taken
    · cases taken
      cases left
    · cases taken
      cases left
      exact ⟨custody, .refl, ⟨flags.flag, flags.known, flags.called⟩, rfl, rfl,
        fun _ _ _ => pending⟩
    · next broker result _ =>
      cases taken
      cases left
      have answers : Custody.Step index delivery custody (custody.answer .handler result) :=
        .answer result nofun pending
      exact ⟨_, .single answers, ⟨flags.flag, flags.known, flags.called⟩, rfl, rfl,
        by rintro _ ⟨⟩ ⟨⟩⟩
  · split at taken
    · cases taken
      cases left
    · cases taken
      cases left
      exact ⟨custody, .refl, ⟨flags.flag, flags.known, flags.called⟩, rfl, rfl, by rintro _ ⟨⟩⟩

/-! ## Workers -/

/-- Whether a worker waits for the broker to take a delivery back. -/
def isGivingBack (task : Task) : WorkerPoint → Bool
  | .returning _ => task.play.isSome
  | .idle | .waiting | .handling _ | .finished => false

private theorem isGivingBack_continueWith (task : Task) (job : Job) (point : WorkerPoint) :
    isGivingBack (task.continueWith job) point = false := by
  cases point <;> rfl

/-- A custody stands where a simulated worker has come to with a delivery. -/
structure Keeps (owner index : Nat) (run? : Option HandlerRun) (delivery : Delivery)
    (world : World) (task : Task) (custody : Custody) : Prop where
  job : task.job = .worker owner index run?
  flags : Flags world delivery.tag custody
  pool : custody.pool = (world.consumption owner).pool
  has : (custody.pool.worker index).delivery? = some delivery
  begun : run?.isSome = (custody.pool.worker index).handling?.isSome
  owed : ∀ run, run? = some run → run.awaitsBroker = true →
    Custody.Settler.handler ∈ custody.pending
  givesBack : custody.isGivingBack = isGivingBack task (custody.pool.worker index)
  owesWorker : custody.isGivingBack = true → Custody.Settler.worker ∈ custody.pending

/-- A custody stands where a simulated worker has come to, with the delivery or without. -/
structure KeepingArrives (owner index ticket : Nat) (delivery : Delivery) (progress : Progress)
    (custody : Custody) : Prop where
  flags : Flags progress.world delivery.tag custody
  pool : custody.pool = (progress.world.consumption owner).pool
  keeps : (custody.pool.worker index).delivery? = some delivery →
    ∃ task run?, progress.task? = some task ∧ task.id = ticket ∧
      Keeps owner index run? delivery progress.world task custody

section

variable {owner : Nat} {run? : Option HandlerRun} {task : Task} {progress : Progress}

/-- Both meet an event in the same way. -/
theorem meet_keeps {event : WorkerEvent} (consumption : Consumption)
    (flags : Flags world delivery.tag custody) (pool : custody.pool = consumption.pool)
    (free : ((custody.meet index event).pool.worker index).handling? = none) :
    KeepingArrives owner index task.id delivery
      (workerReaction world task owner index consumption event) (custody.meet index event) := by
  have idle : (custody.meet index event).isGivingBack = false := rfl
  have same : (custody.meet index event).pool = (consumption.pool.react index event).pool := by
    rw [← pool]
    rfl
  have flag : (custody.meet index event).isSettled = world.isSettled delivery.tag := flags.flag
  have called : (custody.meet index event).calling? = none := flags.called
  generalize custody.meet index event = met at *
  unfold workerReaction
  dsimp only
  rw [← same]
  generalize consumption.pool.react index event = reaction
  have placed :=
    World.consumption_setConsumption owner { consumption with pool := met.pool } world
  have placed := congrArg (·.pool) placed.symm
  split
  · next gone =>
    refine ⟨⟨flag, flags.known, called⟩, placed, fun had => ?_⟩
    rw [WorkerPoint.eq_finished gone] at had
    cases had
  · refine ⟨⟨flag, flags.known, called⟩, placed, fun had => ⟨_, none, rfl, rfl, ?_⟩⟩
    refine ⟨rfl, ⟨flag, flags.known, called⟩, placed, had, ?_, fun run running => ?_, ?_,
      fun gives => ?_⟩
    · rw [free]
      rfl
    · cases running
    · rw [idle, isGivingBack_continueWith]
    · rw [idle] at gives
      cases gives

private theorem summons?_eq_abort {pool : Consumer.Pool} {event : WorkerEvent}
    (had : (pool.worker index).delivery? = some delivery)
    (found : pool.summons? index = some event) : event = .abort := by
  unfold Consumer.Pool.summons? Consumer.Pool.interrupt? at found
  cases point : pool.worker index with
  | idle | waiting | finished =>
      rw [point] at had
      cases had
  | handling | returning =>
      rw [point] at found
      dsimp only at found
      split at found
      · cases found
        rfl
      · cases found

private theorem Keeps.exists_handled (keeps : Keeps owner index run? delivery world task custody)
    (point : custody.pool.worker index = .handling delivery)
    (taken : handleOn world task owner index delivery run? = some progress) :
    ∃ next, Custody.Steps index delivery custody next ∧
      KeepingArrives owner index task.id delivery progress next := by
  obtain ⟨job, flags, pool, has, begun, owed, givesBack, owesWorker⟩ := keeps
  rw [point] at begun givesBack
  unfold handleOn at taken
  dsimp only at taken
  cases run? with
  | none => cases begun
  | some run =>
      dsimp only at taken
      cases stepped : stepHandler world delivery.tag run with
      | waiting =>
          rw [stepped] at taken
          cases taken
      | running after next =>
          rw [stepped] at taken
          cases taken
          obtain ⟨held, steps, known, samePool, sameGiving, owes⟩ :=
            exists_handlingArrives flags point (owed run rfl) stepped rfl
          have shares : after.SharesWith world := stepHandler_shares (by rw [stepped]; rfl)
          have placed : held.pool = (after.consumption owner).pool := by
            rw [samePool, shares.consumption, pool]
          have idle : held.isGivingBack = false := sameGiving.trans givesBack
          refine ⟨held, steps, known, placed, fun had => ⟨_, some next, rfl, rfl, ?_⟩⟩
          refine ⟨rfl, known, placed, had, ?_, ?_, ?_, ?_⟩
          · rw [samePool, point]
            rfl
          · rintro running ⟨⟩ awaits
            exact owes next rfl awaits
          · rw [idle, isGivingBack_continueWith]
          · rw [idle]
            exact nofun
      | returned after result =>
          rw [stepped] at taken
          cases taken
          obtain ⟨held, steps, known, samePool, -, -⟩ :=
            exists_handlingArrives flags point (owed run rfl) stepped rfl
          have atPoint : held.pool.worker index = .handling delivery := by
            rw [samePool, point]
          refine ⟨_, steps.tail (.handled result atPoint known.isMidway_eq), ?_⟩
          rw [← known.flag]
          refine meet_keeps _ ⟨known.flag, known.known, known.called⟩ (samePool.trans pool) ?_
          change ((held.finish index result).pool.worker index).handling? = none
          rcases Custody.finish_cases result atPoint with ⟨freed, -⟩ | ⟨back, -⟩
          · rw [freed]
            rfl
          · rw [back]
            rfl

private theorem Keeps.exists_givenBack (keeps : Keeps owner index run? delivery world task custody)
    (point : custody.pool.worker index = .returning delivery)
    (taken : giveBackOn world task owner index delivery = some progress) :
    ∃ next, Custody.Steps index delivery custody next ∧
      KeepingArrives owner index task.id delivery progress next := by
  obtain ⟨job, flags, pool, has, begun, owed, givesBack, owesWorker⟩ := keeps
  rw [point] at begun givesBack
  have freed {held : Custody} (result : Except ClientError Unit)
      (samePool : held.pool = custody.pool) :
      ((held.meet index (.settled result)).pool.worker index).handling? = none := by
    have atPoint : held.pool.worker index = .returning delivery := by rw [samePool, point]
    rw [(Custody.meet_settled result atPoint).1]
    rfl
  have waits {held : Custody} {after : World} (play : Play)
      (known : Flags after delivery.tag held) (samePool : held.pool = custody.pool)
      (shares : after.SharesWith world) (gives : held.isGivingBack = true)
      (owes : Custody.Settler.worker ∈ held.pending) :
      KeepingArrives owner index task.id delivery
        { world := after, task? := some (task.waitFor play) } held := by
    have placed : held.pool = (after.consumption owner).pool := by
      rw [samePool, shares.consumption, pool]
    refine ⟨known, placed, fun had => ⟨_, run?, rfl, rfl, ?_⟩⟩
    refine ⟨job, known, placed, had, ?_, ?_, ?_, fun _ => owes⟩
    · rw [begun, samePool, point]
    · rintro run rfl
      cases begun
    · rw [gives, samePool, point]
      rfl
  unfold giveBackOn at taken
  dsimp only at taken
  split at taken
  · next idle =>
    have quiet : custody.isGivingBack = false := by
      rw [givesBack, isGivingBack, idle]
      rfl
    split at taken
    · next route =>
      cases taken
      obtain ⟨settled, known⟩ := flags.answered .worker route
      rw [← flags.flag] at settled
      rw [Custody.attempt_of_isSettled settled] at known
      exact ⟨_, .single (.giveBackLate point quiet flags.isMidway_eq settled),
        meet_keeps _ known (Custody.pool_claim.trans pool) (freed _ Custody.pool_claim)⟩
    · next told route =>
      cases taken
      obtain ⟨unsettled, known, owes⟩ := flags.forwarded .worker route
      rw [← flags.flag] at unsettled
      have claimed : Custody.Step index delivery custody _ :=
        .giveBack point quiet flags.isMidway_eq unsettled
      have forwarded := (Relation.ReflTransGen.single claimed).tail
        (.forward (by rw [Custody.claim_of_unsettled unsettled]))
      rw [Custody.attempt_of_unsettled unsettled] at known owes
      exact ⟨_, forwarded, waits _ ⟨known.flag, known.known, known.called⟩ Custody.pool_claim
        (World.beginSettlement_shares _ _ world) rfl owes⟩
  · next play playing =>
    have gives : custody.isGivingBack = true := by
      rw [givesBack, isGivingBack, playing]
      rfl
    split at taken
    · cases taken
    · cases taken
      exact ⟨custody, .refl, waits _ ⟨flags.flag, flags.known, flags.called⟩ rfl
        ⟨rfl, rfl, rfl, rfl, rfl⟩ gives (owesWorker gives)⟩
    · next broker result _ =>
      cases taken
      refine ⟨_, .single (.told result point gives flags.isMidway_eq (owesWorker gives)), ?_⟩
      exact meet_keeps _ ⟨flags.flag, flags.known, flags.called⟩ pool (freed _ rfl)

/-- A worker's way with a delivery is that of a custody, from the call of the handler on. -/
theorem Keeps.exists_steps (keeps : Keeps owner index run? delivery world task custody)
    {looks : Bool} (taken : stepWorker world task looks owner index run? = some progress) :
    ∃ next, Custody.Steps index delivery custody next ∧
      KeepingArrives owner index task.id delivery progress next := by
  have has := keeps.has
  rw [stepWorker_eq] at taken
  dsimp only at taken
  rw [← keeps.pool] at taken
  cases found : if looks then custody.pool.summons? index else none with
  | some event =>
      rw [found] at taken
      cases taken
      rw [Option.ite_none_right_eq_some] at found
      have cut := summons?_eq_abort has found.2
      subst cut
      have gone :
          ((custody.giveUp .worker).meet index .abort).pool.worker index = .finished :=
        (Custody.meet_cutOff has (.inl rfl)).1
      refine ⟨_, .single (.cutOff has keeps.flags.isMidway_eq (.inl rfl)),
        meet_keeps _ ⟨keeps.flags.flag, keeps.flags.known, keeps.flags.called⟩ keeps.pool ?_⟩
      rw [gone]
      rfl
  | none =>
      rw [found] at taken
      dsimp only at taken
      cases point : custody.pool.worker index with
      | idle | waiting | finished =>
          rw [point] at has
          cases has
      | handling other =>
          rw [point] at has taken
          cases has
          exact keeps.exists_handled point taken
      | returning other =>
          rw [point] at has taken
          cases has
          exact keeps.exists_givenBack point taken

private theorem flags_beginHandler (channel : Nat) {pool : Consumer.Pool}
    (fresh : ∀ entry ∈ world.seen, entry.delivery.tag ≠ delivery.tag) :
    Flags (beginHandler world channel delivery).1 delivery.tag { pool } := by
  let entry : SeenDelivery := { channel, delivery }
  refine ⟨?_, ⟨entry, List.mem_append_right _ List.mem_cons_self, rfl⟩, rfl⟩
  symm
  change (world.seen ++ [entry]).any _ = false
  rw [List.any_eq_false]
  intro other member
  rcases List.mem_append.mp member with early | last
  · simp [fresh other early]
  · simp [entry, List.mem_singleton.mp last]

/-- When the handler is called, a custody of the delivery begins. -/
theorem exists_keeps_of_call {looks : Bool}
    (point : (world.consumption owner).pool.worker index = .handling delivery)
    (fresh : ∀ entry ∈ world.seen, entry.delivery.tag ≠ delivery.tag)
    (going : looks = true → (world.consumption owner).pool.summons? index = none)
    (taken : stepWorker world task looks owner index none = some progress) :
    ∃ started run, progress.task? = some started ∧ started.id = task.id ∧
      Keeps owner index (some run) delivery progress.world started
        { pool := (world.consumption owner).pool } := by
  have quiet :
      (if looks then (world.consumption owner).pool.summons? index else none) = none := by
    split
    · next looking => exact going looking
    · rfl
  rw [stepWorker_eq] at taken
  dsimp only at taken
  rw [quiet, point] at taken
  cases taken
  have shares := beginHandler_shares
    (world.broker.streamChannel (world.consumption owner).pool.stream) delivery world
  refine ⟨_, _, rfl, rfl, rfl, flags_beginHandler _ fresh, ?_, ?_, ?_, ?_, ?_, nofun⟩
  · exact congrArg (·.pool) (shares.consumption owner).symm
  · rw [point]
    rfl
  · rw [point]
    rfl
  · rintro run ⟨⟩ awaits
    cases awaits
  · rw [isGivingBack_continueWith]

/-! ## What others do meanwhile -/

/-- A custody goes on when others have taken a step and have left the delivery alone. -/
theorem Keeps.aside (keeps : Keeps owner index run? delivery world task custody)
    (flags : after.isSettled delivery.tag = world.isSettled delivery.tag)
    (known : ∃ entry ∈ after.seen, entry.delivery.tag = delivery.tag)
    (worker : (after.consumption owner).pool.worker index = custody.pool.worker index) :
    ∃ next, Custody.Step index delivery custody next ∧
      Keeps owner index run? delivery after task next := by
  refine ⟨_, .around worker, keeps.job,
    ⟨keeps.flags.flag.trans flags.symm, known, keeps.flags.called⟩, rfl, ?_, ?_,
    keeps.owed, ?_, keeps.owesWorker⟩
  · rw [worker]
    exact keeps.has
  · rw [worker]
    exact keeps.begun
  · rw [worker]
    exact keeps.givesBack

/-- Nothing happens to the flag of a delivery. -/
structure World.LeavesFlag (tag : Nat) (after before : World) : Prop where
  flag : after.isSettled tag = before.isSettled tag
  known : (∃ entry ∈ before.seen, entry.delivery.tag = tag) →
    ∃ entry ∈ after.seen, entry.delivery.tag = tag

private theorem leavesFlag_of_seen (tag : Nat) (same : after.seen = world.seen) :
    after.LeavesFlag tag world := by
  refine ⟨?_, fun known => same ▸ known⟩
  rw [World.isSettled, same, World.isSettled]

private theorem beginSettlement_leavesFlag {tag other : Nat} (told : Settlement)
    (apart : other ≠ tag) :
    (world.beginSettlement tag told).1.LeavesFlag other world :=
  ⟨World.isSettled_setSettled_ne true apart, World.known_setSettled true⟩

private theorem beginHandler_leavesFlag (channel tag : Nat) :
    (beginHandler world channel delivery).1.LeavesFlag tag world := by
  refine ⟨?_, fun ⟨entry, member, same⟩ => ⟨entry, List.mem_append_left _ member, same⟩⟩
  change (world.seen ++ [({ channel, delivery } : SeenDelivery)]).any _ = world.isSettled tag
  simp [World.isSettled]

private theorem stepHandler_leavesFlag {tag other : Nat} {run : HandlerRun} (apart : other ≠ tag)
    (left : (stepHandler world tag run).world? = some after) : after.LeavesFlag other world := by
  unfold stepHandler at left
  dsimp only at left
  split at left
  · split at left
    · cases left
    · cases left
      exact leavesFlag_of_seen _ rfl
  · cases left
    exact leavesFlag_of_seen _ rfl
  · split at left
    · cases left
      exact leavesFlag_of_seen _ rfl
    · cases left
      exact beginSettlement_leavesFlag _ apart
  · split at left
    · cases left
    · cases left
      exact leavesFlag_of_seen _ rfl
    · cases left
      exact leavesFlag_of_seen _ rfl
  · split at left
    · cases left
    · cases left
      exact leavesFlag_of_seen _ rfl

private theorem seen_workerReaction (world : World) (task : Task) (owner index : Nat)
    (consumption : Consumption) (event : WorkerEvent) :
    (workerReaction world task owner index consumption event).world.seen = world.seen := by
  unfold workerReaction
  dsimp only
  split <;> rfl

/-- A worker leaves the flags of all deliveries alone but of its own. -/
theorem stepWorker_leavesFlag {tag : Nat} {looks : Bool}
    (different : ∀ own, ((world.consumption owner).pool.worker index).delivery? = some own →
      tag ≠ own.tag)
    (taken : stepWorker world task looks owner index run? = some progress) :
    progress.world.LeavesFlag tag world := by
  have react {after : World} {event : WorkerEvent} (leaves : after.LeavesFlag tag world) :
      (workerReaction after task owner index (world.consumption owner)
        event).world.LeavesFlag tag world := by
    have same := leavesFlag_of_seen tag
      (seen_workerReaction after task owner index (world.consumption owner) event)
    exact ⟨same.flag.trans leaves.flag, fun known => same.known (leaves.known known)⟩
  rw [stepWorker_eq] at taken
  dsimp only at taken
  split at taken
  · cases taken
    exact react (leavesFlag_of_seen _ rfl)
  · split at taken
    · cases taken
    · cases taken
    · split at taken
      · split at taken
        · cases taken
        · cases taken
          exact react (leavesFlag_of_seen _ rfl)
      · cases taken
    · next own point =>
      have apart := different own (by rw [point]; rfl)
      unfold handleOn at taken
      dsimp only at taken
      split at taken
      · cases taken
        exact beginHandler_leavesFlag _ tag
      · split at taken
        · cases taken
        · next stepped =>
          cases taken
          exact stepHandler_leavesFlag apart (by rw [stepped]; rfl)
        · next stepped =>
          cases taken
          exact react (stepHandler_leavesFlag apart (by rw [stepped]; rfl))
    · next own point =>
      have apart := different own (by rw [point]; rfl)
      unfold giveBackOn at taken
      dsimp only at taken
      split at taken
      · split at taken
        · cases taken
          exact react (leavesFlag_of_seen _ rfl)
        · cases taken
          exact beginSettlement_leavesFlag _ apart
      · split at taken
        · cases taken
        · cases taken
          exact leavesFlag_of_seen _ rfl
        · cases taken
          exact react (leavesFlag_of_seen _ rfl)

/-- A worker leaves its colleagues where they stand with other deliveries. -/
theorem Keeps.workedBeside {other : Nat} {otherRun? : Option HandlerRun} {colleague : Task}
    {looks : Bool} {shift : Consumer.Shift}
    (keeps : Keeps owner index run? delivery world task custody) (apart : other ≠ index)
    (serves : Serves owner other otherRun? world colleague looks shift)
    (orderly : shift.IsOrderly)
    (different : ∀ own, (shift.pool.worker other).delivery? = some own →
      delivery.tag ≠ own.tag)
    (taken : stepWorker world colleague looks owner other otherRun? = some progress) :
    ∃ next, Custody.Step index delivery custody next ∧
      Keeps owner index run? delivery progress.world task next := by
  obtain ⟨after, arrives⟩ := exists_arrives_of_stepWorker serves orderly taken
  rw [serves.pool] at different
  have leaves := stepWorker_leavesFlag different taken
  refine keeps.aside leaves.flag (leaves.known keeps.flags.known) ?_
  rw [arrives.consumption, keeps.pool, ← serves.pool]
  exact (arrives.beside index apart.symm).2

/-! ## Somebody in the foreground -/

private theorem mem_pending_attempt {other : Custody.Settler} (settler : Custody.Settler)
    (owed : other ∈ custody.pending) :
    other ∈ (custody.attempt settler settlement).pending := by
  cases settled : custody.isSettled with
  | true =>
      rw [Custody.attempt_of_isSettled settled, Custody.pending_claim]
      exact owed
  | false =>
      rw [Custody.attempt_of_unsettled settled]
      refine List.mem_cons_of_mem _ ?_
      rw [Custody.pending_claim]
      exact owed

/-- A custody has taken the steps that bring it to where somebody in the foreground has come. -/
structure SettlingArrives (index ticket : Nat) (delivery : Delivery) (progress : Progress)
    (custody next : Custody) : Prop where
  steps : Custody.Steps index delivery custody next
  flags : Flags progress.world delivery.tag next
  pool : next.pool = custody.pool
  isGivingBack : next.isGivingBack = custody.isGivingBack
  owed : ∀ waiting, progress.task? = some waiting →
    waiting.id = ticket ∧ Custody.Settler.holder ticket ∈ next.pending
  owedOthers : ∀ other, other ≠ .holder ticket → other ∈ custody.pending → other ∈ next.pending

/-- A settlement in the foreground is that of one who has the delivery in hand. -/
theorem exists_settlingArrives (index : Nat) {caller : Task} {channel : Nat}
    (flags : Flags world delivery.tag custody)
    (owed : caller.play.isSome = true → Custody.Settler.holder caller.id ∈ custody.pending)
    (taken : stepSettle world caller channel delivery.tag settlement = some progress) :
    progress.world.SharesWith world ∧
      ∃ next, SettlingArrives index caller.id delivery progress custody next := by
  unfold stepSettle at taken
  split at taken
  · have attempts : Custody.Steps index delivery custody _ :=
      steps_attempt (.claim custody caller.id settlement)
    split at taken
    · next route =>
      cases taken
      obtain ⟨-, flags⟩ := flags.answered (.holder caller.id) route
      exact ⟨⟨rfl, rfl, rfl, rfl, rfl⟩, _, attempts, ⟨flags.flag, flags.known, flags.called⟩,
        pool_attempt _, isGivingBack_attempt _, by rintro _ ⟨⟩, fun _ _ => mem_pending_attempt _⟩
    · next told route =>
      cases taken
      obtain ⟨-, flags, owes⟩ := flags.forwarded (.holder caller.id) route
      exact ⟨World.beginSettlement_shares _ _ world, _, attempts, flags, pool_attempt _,
        isGivingBack_attempt _, by rintro _ ⟨⟩; exact ⟨rfl, owes⟩,
        fun _ _ => mem_pending_attempt _⟩
  · next play playing =>
    have pending := owed (by rw [playing]; rfl)
    split at taken
    · cases taken
    · cases taken
      exact ⟨⟨rfl, rfl, rfl, rfl, rfl⟩, custody, .refl,
        ⟨flags.flag, flags.known, flags.called⟩, rfl, rfl,
        by rintro _ ⟨⟩; exact ⟨rfl, pending⟩, fun _ _ owed => owed⟩
    · next broker result _ =>
      cases taken
      have answers : Custody.Step index delivery custody
          (custody.answer (.holder caller.id) result) := .answer result nofun pending
      exact ⟨⟨rfl, rfl, rfl, rfl, rfl⟩, _, .single answers,
        ⟨flags.flag, flags.known, flags.called⟩, rfl, rfl, by rintro _ ⟨⟩,
        fun _ apart owed => (List.mem_erase_of_ne apart).mpr owed⟩

/-- A settlement in the foreground leaves a worker where it stands with the delivery. -/
theorem Keeps.settledBeside {caller : Task} {channel : Nat}
    (keeps : Keeps owner index run? delivery world task custody)
    (owed : caller.play.isSome = true → Custody.Settler.holder caller.id ∈ custody.pending)
    (taken : stepSettle world caller channel delivery.tag settlement = some progress) :
    ∃ next, Custody.Steps index delivery custody next ∧
      Keeps owner index run? delivery progress.world task next := by
  obtain ⟨shares, next, steps, flags, pool, gives, -, owes⟩ :=
    exists_settlingArrives index keeps.flags owed taken
  refine ⟨next, steps, keeps.job, flags, ?_, ?_, ?_, fun run running awaits => ?_, ?_,
    fun giving => ?_⟩
  · rw [pool, keeps.pool, shares.consumption]
  · rw [pool]
    exact keeps.has
  · rw [pool]
    exact keeps.begun
  · exact owes _ nofun (keeps.owed run running awaits)
  · rw [gives, pool]
    exact keeps.givesBack
  · exact owes _ nofun (keeps.owesWorker (gives ▸ giving))

end

end

end AmqpClient.Simulation
