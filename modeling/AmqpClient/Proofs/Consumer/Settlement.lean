import AmqpClient.Proofs.Consumer.Pool
import Mathlib.Logic.Relation

/-!
# The settlement of one delivery

A delivery is in the hands of the worker that handles it, of the handler, and of all other tasks to
which the handler has given a copy. Each of them may settle it at any time and any number of times.
The first to do so raises the flag that all copies share, and then tells the broker. Nothing
suspends a task between the two, but the other tasks go on meanwhile, and find the flag up. The
broker accepts what it is told, fails or never answers; whoever waits for its answer may give up,
and the worker may be cut off.
-/

set_option autoImplicit false

namespace AmqpClient.Consumer

namespace Custody

inductive Settler where
  | worker
  /-- The code that the worker runs for the delivery. -/
  | handler
  /-- Another task that has a copy. -/
  | holder (ticket : Nat)
  deriving DecidableEq

/-- A settlement that was asked for, and what was answered at once. -/
structure Attempt where
  settler : Settler
  settlement : Settlement
  answer? : Option (Except ClientError Unit)

inductive Mark where
  | attempted (attempt : Attempt)
  /-- The broker was told. -/
  | forwarded (settler : Settler) (settlement : Settlement)
  | answered (settler : Settler) (result : Except ClientError Unit)
  | handled (result : Except ClientError Unit)
  /-- The worker is done with the delivery and turns to the next one. -/
  | done

namespace Mark

def attempt? : Mark → Option Attempt
  | .attempted attempt => some attempt
  | _ => none

def forward? : Mark → Option (Settler × Settlement)
  | .forwarded settler settlement => some (settler, settlement)
  | _ => none

end Mark

end Custody

/-- A delivery with all that bears on its settlement. -/
structure Custody where
  pool : Pool
  isSettled : Bool := false
  /-- Who has raised the flag and has not told the broker yet. -/
  calling? : Option (Custody.Settler × Settlement) := none
  /-- The worker has begun to settle the delivery. -/
  isGivingBack : Bool := false
  /-- Whom the broker owes an answer. -/
  pending : List Custody.Settler := []
  marks : List Custody.Mark := []

namespace Custody

def attempts (custody : Custody) : List Attempt :=
  custody.marks.filterMap Mark.attempt?

def forwards (custody : Custody) : List (Settler × Settlement) :=
  custody.marks.filterMap Mark.forward?

/-- What the broker was told, and what it is about to be told. -/
def due (custody : Custody) : List (Settler × Settlement) :=
  custody.forwards ++ custody.calling?.toList

/-- The worker's task is between the flag and the broker. -/
def isMidway (custody : Custody) : Bool :=
  match custody.calling? with
  | some (.worker, _) | some (.handler, _) => true
  | some (.holder _, _) | none => false

/-- Looks at the flag and raises it. -/
def claim (settler : Settler) (settlement : Settlement) (custody : Custody) : Custody :=
  match settle custody.isSettled settlement with
  | (.answered, isSettled) =>
    { custody with
      isSettled
      marks :=
        custody.marks ++ [.attempted { settler, settlement, answer? := some (.ok ()) }] }
  | (.forwarded settlement, isSettled) =>
    { custody with
      isSettled
      calling? := some (settler, settlement)
      marks := custody.marks ++ [.attempted { settler, settlement, answer? := none }] }

def forward (settler : Settler) (settlement : Settlement) (custody : Custody) : Custody :=
  { custody with
    calling? := none
    pending := settler :: custody.pending
    marks := custody.marks ++ [.forwarded settler settlement] }

/-- A settlement with nothing between the flag and the broker. -/
def attempt (settler : Settler) (settlement : Settlement) (custody : Custody) : Custody :=
  match (settle custody.isSettled settlement).1 with
  | .answered => custody.claim settler settlement
  | .forwarded settlement => (custody.claim settler settlement).forward settler settlement

def giveUp (settler : Settler) (custody : Custody) : Custody :=
  { custody with pending := custody.pending.erase settler }

def answer (settler : Settler) (result : Except ClientError Unit) (custody : Custody) : Custody :=
  let given := custody.giveUp settler
  { given with marks := given.marks ++ [.answered settler result] }

def meet (index : Nat) (event : WorkerEvent) (custody : Custody) : Custody :=
  let reaction := custody.pool.react index event
  { custody with
    pool := reaction.pool
    isGivingBack := false
    marks := custody.marks ++ if reaction.next = .await then [.done] else [] }

/-- The handler returns, and the worker looks at the flag. -/
def finish (index : Nat) (result : Except ClientError Unit) (custody : Custody) : Custody :=
  let told : Custody := { custody with marks := custody.marks ++ [.handled result] }
  told.meet index (.handled result custody.isSettled)

/-- One step of those who have the delivery. Flag and broker are two steps, between which all other
tasks may take theirs. -/
inductive Step (index : Nat) (delivery : Delivery) : Custody → Custody → Prop where
  | around {custody : Custody} {pool : Pool} :
      pool.worker index = custody.pool.worker index →
      Step index delivery custody { custody with pool }
  | claim (custody : Custody) (ticket : Nat) (settlement : Settlement) :
      Step index delivery custody (custody.claim (.holder ticket) settlement)
  | claimHandling {custody : Custody} (settlement : Settlement) :
      custody.pool.worker index = .handling delivery → custody.isMidway = false →
      Step index delivery custody (custody.claim .handler settlement)
  | forward {custody : Custody} {settler : Settler} {settlement : Settlement} :
      custody.calling? = some (settler, settlement) →
      Step index delivery custody (custody.forward settler settlement)
  | answer {custody : Custody} {settler : Settler} (result : Except ClientError Unit) :
      settler ≠ .worker → settler ∈ custody.pending →
      Step index delivery custody (custody.answer settler result)
  | giveUp (custody : Custody) {settler : Settler} :
      settler ≠ .worker → Step index delivery custody (custody.giveUp settler)
  | handled {custody : Custody} (result : Except ClientError Unit) :
      custody.pool.worker index = .handling delivery → custody.isMidway = false →
      Step index delivery custody (custody.finish index result)
  | giveBack {custody : Custody} :
      custody.pool.worker index = .returning delivery → custody.isGivingBack = false →
      custody.isMidway = false → custody.isSettled = false →
      Step index delivery custody
        { custody.claim .worker delivery.automaticSettlement with isGivingBack := true }
  /-- Somebody has settled the delivery since the worker looked. -/
  | giveBackLate {custody : Custody} :
      custody.pool.worker index = .returning delivery → custody.isGivingBack = false →
      custody.isMidway = false → custody.isSettled = true →
      Step index delivery custody
        ((custody.claim .worker delivery.automaticSettlement).meet index (.settled (.ok ())))
  | told {custody : Custody} (result : Except ClientError Unit) :
      custody.pool.worker index = .returning delivery → custody.isGivingBack = true →
      custody.isMidway = false → .worker ∈ custody.pending →
      Step index delivery custody ((custody.answer .worker result).meet index (.settled result))
  | cutOff {custody : Custody} {event : WorkerEvent} :
      (custody.pool.worker index).delivery? = some delivery → custody.isMidway = false →
      event = .abort ∨ (∃ details, event = .broke details) →
      Step index delivery custody ((custody.giveUp .worker).meet index event)

abbrev Steps (index : Nat) (delivery : Delivery) : Custody → Custody → Prop :=
  Relation.ReflTransGen (Step index delivery)

/-! ## The first settlement and the others -/

/-- What was asked for, what the broker was told, what it is about to be told, and the flag. -/
inductive Stands :
    List Attempt → List (Settler × Settlement) → Option (Settler × Settlement) → Bool → Prop where
  | unsettled : Stands [] [] none false
  | claimed (settler : Settler) (settlement : Settlement) {later : List Attempt} :
      (∀ attempt ∈ later, attempt.answer? = some (.ok ())) →
      Stands ({ settler, settlement, answer? := none } :: later) [] (some (settler, settlement))
        true
  | settled (settler : Settler) (settlement : Settlement) {later : List Attempt} :
      (∀ attempt ∈ later, attempt.answer? = some (.ok ())) →
      Stands ({ settler, settlement, answer? := none } :: later) [(settler, settlement)] none true

namespace Stands

variable {attempts : List Attempt} {forwards : List (Settler × Settlement)}
  {calling? : Option (Settler × Settlement)} {called : Settler × Settlement} {isSettled : Bool}

private theorem first (stands : Stands attempts forwards calling? isSettled) :
    forwards ++ calling?.toList =
      (attempts.take 1).map fun attempt => (attempt.settler, attempt.settlement) := by
  cases stands <;> rfl

private theorem later (stands : Stands attempts forwards calling? isSettled) :
    ∀ attempt ∈ attempts.drop 1, attempt.answer? = some (.ok ()) := by
  cases stands with
  | unsettled => exact nofun
  | claimed _ _ answered => exact answered
  | settled _ _ answered => exact answered

private theorem call (stands : Stands attempts forwards (some called) isSettled) :
    forwards = [] ∧ Stands attempts [called] none isSettled := by
  cases stands with
  | claimed settler settlement answered => exact ⟨rfl, .settled settler settlement answered⟩

private theorem attempts_ne_nil (stands : Stands attempts forwards calling? true) :
    attempts ≠ [] := by
  cases stands <;> exact List.cons_ne_nil _ _

private theorem refuse {attempt : Attempt} (stands : Stands attempts forwards calling? true)
    (answered : attempt.answer? = some (.ok ())) :
    Stands (attempts ++ [attempt]) forwards calling? true := by
  have answeredAll {later : List Attempt}
      (answeredLater : ∀ other ∈ later, other.answer? = some (.ok ())) :
      ∀ other ∈ later ++ [attempt], other.answer? = some (.ok ()) := by
    intro other member
    rcases List.mem_append.mp member with early | last
    · exact answeredLater other early
    · rw [List.mem_singleton.mp last, answered]
  cases stands with
  | claimed settler settlement answeredLater =>
      exact .claimed settler settlement (answeredAll answeredLater)
  | settled settler settlement answeredLater =>
      exact .settled settler settlement (answeredAll answeredLater)

private theorem letThrough {settler : Settler} {settlement : Settlement}
    (stands : Stands attempts forwards calling? false) :
    Stands (attempts ++ [{ settler, settlement, answer? := none }]) forwards
      (some (settler, settlement)) true := by
  cases stands
  exact .claimed settler settlement nofun

end Stands

section

variable {index : Nat} {delivery : Delivery} {custody after : Custody} {settler : Settler}
  {settlement : Settlement} {event : WorkerEvent} {result : Except ClientError Unit}

theorem claim_of_isSettled (settled : custody.isSettled = true) :
    custody.claim settler settlement =
      { custody with
        marks :=
          custody.marks ++ [.attempted { settler, settlement, answer? := some (.ok ()) }] } := by
  simp [claim, settle, settled]

theorem claim_of_unsettled (unsettled : custody.isSettled = false) :
    custody.claim settler settlement =
      { custody with
        isSettled := true
        calling? := some (settler, settlement)
        marks := custody.marks ++ [.attempted { settler, settlement, answer? := none }] } := by
  simp [claim, settle, unsettled]

theorem attempt_of_isSettled (settled : custody.isSettled = true) :
    custody.attempt settler settlement = custody.claim settler settlement := by
  simp [attempt, settle, settled]

theorem attempt_of_unsettled (unsettled : custody.isSettled = false) :
    custody.attempt settler settlement =
      (custody.claim settler settlement).forward settler settlement := by
  simp [attempt, settle, unsettled]

@[simp] theorem isSettled_claim : (custody.claim settler settlement).isSettled = true := by
  cases settled : custody.isSettled with
  | true => rw [claim_of_isSettled settled, settled]
  | false => rw [claim_of_unsettled settled]

@[simp] theorem pool_claim : (custody.claim settler settlement).pool = custody.pool := by
  unfold claim
  split <;> rfl

@[simp] theorem isGivingBack_claim :
    (custody.claim settler settlement).isGivingBack = custody.isGivingBack := by
  unfold claim
  split <;> rfl

@[simp] theorem pending_claim : (custody.claim settler settlement).pending = custody.pending := by
  unfold claim
  split <;> rfl

private theorem marks_claim (custody : Custody) (settler : Settler) (settlement : Settlement) :
    ∃ answer?, (custody.claim settler settlement).marks =
      custody.marks ++ [.attempted { settler, settlement, answer? }] := by
  cases settled : custody.isSettled with
  | true => exact ⟨_, by rw [claim_of_isSettled settled]⟩
  | false => exact ⟨_, by rw [claim_of_unsettled settled]⟩

/-- A first settlement is let through, and any other is answered at once. -/
private theorem Stands.claim
    (stands : Stands custody.attempts custody.forwards custody.calling? custody.isSettled) :
    Stands (custody.claim settler settlement).attempts (custody.claim settler settlement).forwards
      (custody.claim settler settlement).calling?
      (custody.claim settler settlement).isSettled := by
  rw [isSettled_claim]
  cases settled : custody.isSettled with
  | false =>
      rw [settled] at stands
      rw [claim_of_unsettled settled, attempts, forwards, List.filterMap_append,
        List.filterMap_append]
      change Stands (custody.attempts ++ _) (custody.forwards ++ []) _ true
      rw [List.append_nil]
      exact stands.letThrough
  | true =>
      rw [settled] at stands
      rw [claim_of_isSettled settled, attempts, forwards, List.filterMap_append,
        List.filterMap_append]
      change Stands (custody.attempts ++ _) (custody.forwards ++ []) custody.calling? true
      rw [List.append_nil]
      exact stands.refuse rfl

private theorem attempts_forward :
    (custody.forward settler settlement).attempts = custody.attempts :=
  (List.filterMap_append ..).trans (List.append_nil _)

private theorem forwards_forward :
    (custody.forward settler settlement).forwards = custody.forwards ++ [(settler, settlement)] :=
  List.filterMap_append ..

private theorem Stands.forward
    (stands : Stands custody.attempts custody.forwards custody.calling? custody.isSettled)
    (calling : custody.calling? = some (settler, settlement)) :
    Stands (custody.forward settler settlement).attempts
      (custody.forward settler settlement).forwards none custody.isSettled := by
  rw [calling] at stands
  obtain ⟨untold, told⟩ := stands.call
  rw [attempts_forward, forwards_forward, untold]
  exact told

/-! ## The worker's part -/

namespace Mark

/-- Whether it tells how far the worker has come with the delivery. -/
def isProgress : Mark → Bool
  | .handled _ | .done => true
  | .attempted _ | .forwarded .. | .answered .. => false

end Mark

private theorem attempts_meet : (custody.meet index event).attempts = custody.attempts := by
  rw [attempts, meet, List.filterMap_append]
  split <;> exact List.append_nil _

private theorem forwards_meet : (custody.meet index event).forwards = custody.forwards := by
  rw [forwards, meet, List.filterMap_append]
  split <;> exact List.append_nil _

private theorem attempts_answer : (custody.answer settler result).attempts = custody.attempts :=
  (List.filterMap_append ..).trans (List.append_nil _)

private theorem forwards_answer : (custody.answer settler result).forwards = custody.forwards :=
  (List.filterMap_append ..).trans (List.append_nil _)

private theorem attempts_finish : (custody.finish index result).attempts = custody.attempts :=
  attempts_meet.trans ((List.filterMap_append ..).trans (List.append_nil _))

private theorem forwards_finish : (custody.finish index result).forwards = custody.forwards :=
  forwards_meet.trans ((List.filterMap_append ..).trans (List.append_nil _))

private theorem attempts_claim (custody : Custody) (settler : Settler) (settlement : Settlement) :
    ∃ answer? : Option (Except ClientError Unit), (custody.claim settler settlement).attempts =
      custody.attempts ++ [({ settler, settlement, answer? } : Attempt)] := by
  obtain ⟨answer?, marks⟩ := marks_claim custody settler settlement
  refine ⟨answer?, ?_⟩
  rw [attempts, marks, List.filterMap_append]
  rfl

private theorem mem_append_of_progress {marks added : List Mark} {mark : Mark}
    (progress : mark.isProgress = true) (aside : ∀ other ∈ added, other.isProgress = false) :
    mark ∈ marks ++ added ↔ mark ∈ marks := by
  rw [List.mem_append, or_iff_left]
  intro member
  rw [aside mark member] at progress
  cases progress

private theorem mem_marks_claim {mark : Mark} (progress : mark.isProgress = true) :
    mark ∈ (custody.claim settler settlement).marks ↔ mark ∈ custody.marks := by
  obtain ⟨answer?, marks⟩ := marks_claim custody settler settlement
  rw [marks]
  exact mem_append_of_progress progress (by simp [Mark.isProgress])

theorem finish_cases (result : Except ClientError Unit)
    (atPoint : custody.pool.worker index = .handling delivery) :
    ((custody.finish index result).pool.worker index = .idle ∧
        (custody.finish index result).marks = custody.marks ++ [.handled result] ++ [.done] ∧
        ∀ error, result = .error error → custody.isSettled = true) ∨
      (custody.finish index result).pool.worker index = .returning delivery ∧
        (custody.finish index result).marks = custody.marks ++ [.handled result] := by
  have alive : (custody.pool.worker index).isOver = false := by rw [atPoint]; rfl
  have back := Pool.worker_moveTo_self .idle alive
  have toBroker := Pool.worker_moveTo_self (.returning delivery) alive
  unfold finish meet
  simp only [Pool.react, atPoint]
  cases result with
  | ok =>
      refine .inl ⟨back, rfl, ?_⟩
      rintro error ⟨⟩
  | error error =>
      cases settled : custody.isSettled with
      | true => exact .inl ⟨back, rfl, fun _ _ => rfl⟩
      | false => exact .inr ⟨toBroker, List.append_nil _⟩

theorem meet_settled (result : Except ClientError Unit)
    (atPoint : custody.pool.worker index = .returning delivery) :
    (custody.meet index (.settled result)).pool.worker index = .idle ∧
      (custody.meet index (.settled result)).marks = custody.marks ++ [.done] := by
  have alive : (custody.pool.worker index).isOver = false := by rw [atPoint]; rfl
  have back := Pool.worker_moveTo_self .idle alive
  unfold meet
  simp only [Pool.react, atPoint]
  cases result with
  | ok => exact ⟨back, rfl⟩
  | error => exact ⟨back, rfl⟩

theorem meet_cutOff (had : (custody.pool.worker index).delivery? = some delivery)
    (cut : event = .abort ∨ ∃ details, event = .broke details) :
    (custody.meet index event).pool.worker index = .finished ∧
      (custody.meet index event).marks = custody.marks := by
  unfold meet Pool.react
  cases atPoint : custody.pool.worker index with
  | idle | waiting | finished =>
      rw [atPoint] at had
      cases had
  | handling | returning =>
      rcases cut with rfl | ⟨details, rfl⟩ <;>
        exact ⟨Pool.worker_moveTo_finished, List.append_nil _⟩

/-! ## What holds of a delivery at any time -/

structure IsSound (index : Nat) (delivery : Delivery) (custody : Custody) : Prop where
  stands : Stands custody.attempts custody.forwards custody.calling? custody.isSettled
  own : ∀ attempt ∈ custody.attempts, attempt.settler = .worker →
    attempt.settlement = delivery.automaticSettlement
  unhandled : (custody.pool.worker index).handling?.isSome = true →
    ∀ result, Mark.handled result ∉ custody.marks
  undone : (custody.pool.worker index).delivery?.isSome = true → Mark.done ∉ custody.marks
  /-- A task that is between the flag and the broker does not get rid of the delivery. -/
  busy : custody.isMidway = true → (custody.pool.worker index).delivery?.isSome = true
  givenBack : custody.isGivingBack = true → custody.isSettled = true
  dealtWith : Mark.done ∈ custody.marks → ∀ error, Mark.handled (.error error) ∈ custody.marks →
    custody.isSettled = true

private theorem isSound_initial {pool : Pool} : ({ pool } : Custody).IsSound index delivery where
  stands := .unsettled
  own _ member := absurd member List.not_mem_nil
  unhandled _ _ := List.not_mem_nil
  undone _ := List.not_mem_nil
  busy := nofun
  givenBack := nofun
  dealtWith member := absurd member List.not_mem_nil

namespace IsSound

/-- Progress is told by the worker alone. -/
private theorem aside (sound : custody.IsSound index delivery)
    (worker : after.pool.worker index = custody.pool.worker index)
    (progress : ∀ mark : Mark, mark.isProgress = true → (mark ∈ after.marks ↔ mark ∈ custody.marks))
    (stands : Stands after.attempts after.forwards after.calling? after.isSettled)
    (own : ∀ attempt ∈ after.attempts, attempt.settler = .worker →
      attempt.settlement = delivery.automaticSettlement)
    (busy : after.isMidway = true → (custody.pool.worker index).delivery?.isSome = true)
    (givenBack : after.isGivingBack = true → after.isSettled = true)
    (raised : custody.isSettled = true → after.isSettled = true) :
    after.IsSound index delivery where
  stands := stands
  own := own
  unhandled handling result := by
    rw [worker] at handling
    rw [progress (.handled result) rfl]
    exact sound.unhandled handling result
  undone had := by
    rw [worker] at had
    rw [progress .done rfl]
    exact sound.undone had
  busy midway := by
    rw [worker]
    exact busy midway
  givenBack := givenBack
  dealtWith done error handled :=
    raised (sound.dealtWith ((progress .done rfl).mp done) error ((progress _ rfl).mp handled))

private theorem claim (sound : custody.IsSound index delivery)
    (automatic : settler = .worker → settlement = delivery.automaticSettlement)
    (busy : (custody.claim settler settlement).isMidway = true →
      (custody.pool.worker index).delivery?.isSome = true) :
    (custody.claim settler settlement).IsSound index delivery := by
  refine sound.aside (by rw [pool_claim]) (fun _ => mem_marks_claim) sound.stands.claim ?_ busy
    (fun _ => isSettled_claim) (fun _ => isSettled_claim)
  intro other member isWorker
  obtain ⟨answer?, claimed⟩ := attempts_claim custody settler settlement
  rw [claimed] at member
  rcases List.mem_append.mp member with early | last
  · exact sound.own other early isWorker
  · obtain rfl := List.mem_singleton.mp last
    exact automatic isWorker

private theorem forward (sound : custody.IsSound index delivery)
    (calling : custody.calling? = some (settler, settlement)) :
    (custody.forward settler settlement).IsSound index delivery := by
  refine sound.aside rfl ?_ (sound.stands.forward calling) ?_ nofun sound.givenBack id
  · intro mark progress
    exact mem_append_of_progress progress (by simp [Mark.isProgress])
  · rw [attempts_forward]
    exact sound.own

private theorem answer (sound : custody.IsSound index delivery) :
    (custody.answer settler result).IsSound index delivery := by
  refine sound.aside rfl ?_ ?_ ?_ sound.busy sound.givenBack id
  · intro mark progress
    exact mem_append_of_progress progress (by simp [Mark.isProgress])
  · rw [attempts_answer, forwards_answer]
    exact sound.stands
  · rw [attempts_answer]
    exact sound.own

private theorem finish (sound : custody.IsSound index delivery)
    (atPoint : custody.pool.worker index = .handling delivery)
    (free : custody.isMidway = false) :
    (custody.finish index result).IsSound index delivery := by
  have undone : Mark.done ∉ custody.marks := sound.undone (by rw [atPoint]; rfl)
  have unhandled := sound.unhandled (by rw [atPoint]; rfl)
  constructor
  · rw [attempts_finish, forwards_finish]
    exact sound.stands
  · rw [attempts_finish]
    exact sound.own
  · intro handling
    rcases finish_cases result atPoint with ⟨idle, -, -⟩ | ⟨back, -⟩
    · rw [idle] at handling
      cases handling
    · rw [back] at handling
      cases handling
  · intro had
    rcases finish_cases result atPoint with ⟨idle, -, -⟩ | ⟨-, marks⟩
    · rw [idle] at had
      cases had
    · rw [marks]
      simpa using undone
  · intro midway
    cases free.symm.trans midway
  · exact nofun
  · intro done error handled
    rcases finish_cases result atPoint with ⟨-, marks, settled⟩ | ⟨-, marks⟩
    · rw [marks] at handled
      have own : result = .error error := by simpa [unhandled, eq_comm] using handled
      exact settled error own
    · rw [marks] at done
      exact absurd done (by simpa using undone)

private theorem meet_settled (sound : custody.IsSound index delivery)
    (atPoint : custody.pool.worker index = .returning delivery)
    (free : custody.isMidway = false) (settled : custody.isSettled = true) :
    (custody.meet index (.settled result)).IsSound index delivery := by
  obtain ⟨idle, marks⟩ := Custody.meet_settled result atPoint
  constructor
  · rw [attempts_meet, forwards_meet]
    exact sound.stands
  · rw [attempts_meet]
    exact sound.own
  · intro handling
    rw [idle] at handling
    cases handling
  · intro had
    rw [idle] at had
    cases had
  · intro midway
    cases free.symm.trans midway
  · exact nofun
  · intro _ _ _
    exact settled

private theorem cutOff (sound : custody.IsSound index delivery)
    (had : (custody.pool.worker index).delivery? = some delivery)
    (free : custody.isMidway = false)
    (cut : event = .abort ∨ ∃ details, event = .broke details) :
    ((custody.giveUp .worker).meet index event).IsSound index delivery := by
  have stillHad : ((custody.giveUp .worker).pool.worker index).delivery? = some delivery := had
  obtain ⟨gone, marks⟩ := meet_cutOff stillHad cut
  have undone : Mark.done ∉ custody.marks := sound.undone (by rw [had]; rfl)
  constructor
  · rw [attempts_meet, forwards_meet]
    exact sound.stands
  · rw [attempts_meet]
    exact sound.own
  · intro handling
    rw [gone] at handling
    cases handling
  · intro had
    rw [gone] at had
    cases had
  · intro midway
    cases free.symm.trans midway
  · exact nofun
  · intro done
    rw [marks] at done
    exact absurd done undone

private theorem step (sound : custody.IsSound index delivery)
    (step : Step index delivery custody after) : after.IsSound index delivery := by
  cases step with
  | around worker =>
      exact sound.aside worker (fun _ _ => .rfl) sound.stands sound.own sound.busy sound.givenBack
        id
  | claim ticket settlement =>
      refine sound.claim nofun fun midway => sound.busy ?_
      cases settled : custody.isSettled with
      | true => rwa [claim_of_isSettled settled] at midway
      | false =>
          rw [claim_of_unsettled settled] at midway
          cases midway
  | claimHandling settlement atPoint =>
      refine sound.claim nofun fun _ => ?_
      rw [atPoint]
      rfl
  | forward calling => exact sound.forward calling
  | answer => exact sound.answer
  | giveUp =>
      exact sound.aside rfl (fun _ _ => .rfl) sound.stands sound.own sound.busy sound.givenBack id
  | handled result atPoint free => exact sound.finish atPoint free
  | giveBack atPoint =>
      have claimed :
          (custody.claim .worker delivery.automaticSettlement).IsSound index delivery := by
        refine sound.claim (fun _ => rfl) fun _ => ?_
        rw [atPoint]
        rfl
      exact ⟨claimed.stands, claimed.own, claimed.unhandled, claimed.undone, claimed.busy,
        fun _ => isSettled_claim, claimed.dealtWith⟩
  | giveBackLate atPoint _ free settled =>
      have stillFree : (custody.claim .worker delivery.automaticSettlement).isMidway = false := by
        rw [claim_of_isSettled settled]
        exact free
      have claimed :
          (custody.claim .worker delivery.automaticSettlement).IsSound index delivery := by
        refine sound.claim (fun _ => rfl) fun midway => ?_
        cases stillFree.symm.trans midway
      refine claimed.meet_settled ?_ stillFree isSettled_claim
      rw [pool_claim]
      exact atPoint
  | told result atPoint givingBack free =>
      exact sound.answer.meet_settled atPoint free (sound.givenBack givingBack)
  | cutOff had free cut => exact sound.cutOff had free cut

end IsSound

private theorem Steps.isSound (steps : Steps index delivery custody after)
    (sound : custody.IsSound index delivery) : after.IsSound index delivery := by
  induction steps with
  | refl => exact sound
  | tail _ step sound => exact sound.step step

private theorem Step.isSettled (step : Step index delivery custody after)
    (settled : custody.isSettled = true) : after.isSettled = true := by
  cases step with
  | claim | claimHandling | giveBack | giveBackLate => exact isSettled_claim
  | around | forward | answer | giveUp | handled | told | cutOff => exact settled

/-- What was asked for is not forgotten. -/
private theorem Step.attempts_prefix (step : Step index delivery custody after) :
    custody.attempts <+: after.attempts := by
  have claimed (settler : Settler) (settlement : Settlement) :
      custody.attempts <+: (custody.claim settler settlement).attempts := by
    obtain ⟨answer?, claimed⟩ := attempts_claim custody settler settlement
    exact ⟨_, claimed.symm⟩
  cases step with
  | around | giveUp => exact List.prefix_rfl
  | claim | claimHandling | giveBack => exact claimed _ _
  | forward => exact attempts_forward ▸ List.prefix_rfl
  | answer => exact attempts_answer ▸ List.prefix_rfl
  | handled => exact attempts_finish ▸ List.prefix_rfl
  | giveBackLate =>
      rw [attempts_meet]
      exact claimed _ _
  | told => exact (attempts_meet.trans attempts_answer) ▸ List.prefix_rfl
  | cutOff =>
      rw [attempts_meet]
      exact List.prefix_rfl

private theorem Steps.lasting (steps : Steps index delivery custody after)
    (settled : custody.isSettled = true) :
    after.isSettled = true ∧ custody.attempts <+: after.attempts := by
  induction steps with
  | refl => exact ⟨settled, List.prefix_rfl⟩
  | tail _ step ih => exact ⟨step.isSettled ih.1, ih.2.trans step.attempts_prefix⟩

private theorem IsSound.attempts_ne_nil (sound : custody.IsSound index delivery)
    (settled : custody.isSettled = true) : custody.attempts ≠ [] := by
  have stands := sound.stands
  rw [settled] at stands
  exact stands.attempts_ne_nil

/-- Nobody gets in between the one who has raised the flag and the broker. -/
private theorem IsSound.due_eq (sound : custody.IsSound index delivery)
    (settled : custody.isSettled = true) (steps : Steps index delivery custody after) :
    after.due = custody.due := by
  have grown := (steps.lasting settled).2
  have asked := sound.attempts_ne_nil settled
  rw [due, due, (steps.isSound sound).stands.first, sound.stands.first]
  obtain ⟨later, grown⟩ := grown
  rw [← grown, List.take_append_of_le_length (List.length_pos_iff.mpr asked)]

/-- When a worker is done, it is not between the flag and the broker itself. -/
private theorem IsSound.called_or_calling (sound : custody.IsSound index delivery)
    (done : Mark.done ∈ custody.marks) (settled : custody.isSettled = true) :
    custody.forwards.length = 1 ∨
      custody.forwards = [] ∧
        ∃ ticket settlement, custody.calling? = some (.holder ticket, settlement) := by
  have free : custody.isMidway = false := by
    cases midway : custody.isMidway with
    | false => rfl
    | true => exact absurd done (sound.undone (sound.busy midway))
  have stands := sound.stands
  rw [settled] at stands
  unfold isMidway at free
  generalize custody.attempts = attempts, custody.forwards = forwards at stands
  generalize custody.calling? = calling? at stands free
  cases stands with
  | claimed settler settlement =>
      cases settler with
      | worker | handler => cases free
      | holder ticket => exact .inr ⟨rfl, ticket, settlement, rfl⟩
  | settled => exact .inl rfl

private theorem IsSound.forwards_eq (sound : custody.IsSound index delivery)
    (done : Mark.done ∈ custody.marks) (settled : custody.isSettled = true)
    (isWorker : ∀ attempt, custody.attempts.head? = some attempt → attempt.settler = .worker) :
    custody.forwards = [(.worker, delivery.automaticSettlement)] := by
  have first : custody.due = [(.worker, delivery.automaticSettlement)] := by
    obtain ⟨attempt, later, asked⟩ := List.exists_cons_of_ne_nil (sound.attempts_ne_nil settled)
    have own : attempt.settler = .worker := isWorker attempt (by rw [asked]; rfl)
    have automatic := sound.own attempt (by simp [asked]) own
    rw [due, sound.stands.first, asked, ← own, ← automatic]
    rfl
  rcases sound.called_or_calling done settled with called | ⟨untold, ticket, settlement, calling⟩
  · have told : custody.forwards <+: custody.due := List.prefix_append _ _
    rw [first] at told
    exact told.eq_of_length called
  · rw [due, untold, calling] at first
    cases first

end

structure SettlesOnce (index : Nat) (delivery : Delivery) (custody : Custody) : Prop where
  /-- The broker is told the settlement that was asked for first, and no other. -/
  first : custody.due =
    (custody.attempts.take 1).map fun attempt => (attempt.settler, attempt.settlement)
  later : ∀ attempt ∈ custody.attempts.drop 1, attempt.answer? = some (.ok ())
  lasting : custody.isSettled = true → ∀ after, Steps index delivery custody after →
    after.isSettled = true ∧ after.due = custody.due
  /-- Nobody can keep the one who has raised the flag from telling the broker. -/
  calls : ∀ settler settlement, custody.calling? = some (settler, settlement) →
    Step index delivery custody (custody.forward settler settlement) ∧
      (custody.forward settler settlement).forwards = [(settler, settlement)]
  /-- A worker that is done with a delivery whose handler failed leaves it settled. The broker was
  told, unless the flag was raised by another task that has not come to it yet. -/
  failed : ∀ error, Mark.handled (.error error) ∈ custody.marks → Mark.done ∈ custody.marks →
    custody.isSettled = true ∧
      (custody.forwards.length = 1 ∨
        custody.forwards = [] ∧
          ∃ ticket settlement, custody.calling? = some (.holder ticket, settlement)) ∧
      ((∀ attempt, custody.attempts.head? = some attempt → attempt.settler = .worker) →
        custody.forwards = [(.worker, .nack (!delivery.redelivered))])

theorem settlesOnce_of_steps (index : Nat) (delivery : Delivery) {pool : Pool} {custody : Custody}
    (steps : Steps index delivery { pool } custody) : custody.SettlesOnce index delivery := by
  have sound := steps.isSound isSound_initial
  constructor
  · exact sound.stands.first
  · exact sound.stands.later
  · intro settled after later
    exact ⟨(later.lasting settled).1, sound.due_eq settled later⟩
  · intro settler settlement calling
    have stands := sound.stands
    rw [calling] at stands
    refine ⟨.forward calling, ?_⟩
    rw [forwards_forward, stands.call.1]
    rfl
  · intro error handled done
    have settled := sound.dealtWith done error handled
    have called := sound.called_or_calling done settled
    exact ⟨settled, called, sound.forwards_eq done settled⟩

/-- A redelivery is at the first worker. -/
def atWorker : Custody :=
  { pool := { workers := [.handling { tag := 7, redelivered := true }] } }

/-- The handler has failed, the worker drops the redelivery, and the holder of a copy who accepts
it before the broker has heard of that is told that all is well. -/
def droppedByWorker : Custody :=
  let failed := atWorker.finish 0 (.error .internal)
  let givenBack : Custody := { failed.claim .worker (.nack false) with isGivingBack := true }
  let forwarded := (givenBack.claim (.holder 3) .ack).forward .worker (.nack false)
  (forwarded.answer .worker (.error .nack)).meet 0 (.settled (.error .nack))

private theorem steps_droppedByWorker :
    Steps 0 { tag := 7, redelivered := true } atWorker droppedByWorker := by
  have failed : Step 0 { tag := 7, redelivered := true } atWorker
      (atWorker.finish 0 (.error .internal)) := .handled _ rfl rfl
  have givenBack := (Relation.ReflTransGen.single failed).tail (.giveBack rfl rfl rfl rfl)
  have late := givenBack.tail (.claim _ 3 .ack)
  have forwarded := late.tail (.forward rfl)
  exact forwarded.tail (.told (.error .nack) rfl rfl rfl (by decide))

theorem settlesOnce_of_steps_dropped :
    Steps 0 { tag := 7, redelivered := true } atWorker droppedByWorker ∧
      droppedByWorker.attempts.length = 2 ∧
      droppedByWorker.SettlesOnce 0 { tag := 7, redelivered := true } :=
  ⟨steps_droppedByWorker, rfl,
    settlesOnce_of_steps 0 { tag := 7, redelivered := true } steps_droppedByWorker⟩

/-- A worker that is done with a delivery whose handler failed leaves a broker that was told. -/
def IsCalledWhenDone (custody : Custody) : Prop :=
  ∀ error, Mark.handled (.error error) ∈ custody.marks → Mark.done ∈ custody.marks →
    custody.forwards.length = 1

/-- The holder of a copy has raised the flag; before it comes to the broker the handler fails, and
the worker finds the flag up. -/
def claimedByHolder : Custody :=
  (atWorker.claim (.holder 3) .ack).finish 0 (.error .internal)

theorem not_isCalledWhenDone_raced :
    ¬ ∀ (index : Nat) (delivery : Delivery) (pool : Pool) (custody : Custody),
      Steps index delivery { pool } custody → custody.IsCalledWhenDone := by
  intro called
  have claimed : Step 0 { tag := 7, redelivered := true } atWorker
      (atWorker.claim (.holder 3) .ack) := .claim _ 3 .ack
  have failed := (Relation.ReflTransGen.single claimed).tail (.handled (.error .internal) rfl rfl)
  have marks : claimedByHolder.marks =
      [.attempted { settler := .holder 3, settlement := .ack, answer? := none },
        .handled (.error .internal), .done] := rfl
  have once := called 0 _ _ claimedByHolder failed .internal (by simp [marks]) (by simp [marks])
  cases once

end Custody

end AmqpClient.Consumer
