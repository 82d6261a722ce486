import AmqpClient.Proofs.Publisher.Crowd
import AmqpClient.Proofs.Simulation.Replies

/-!
# Simulated pushes and hand-offs make the steps of a crowd

Whatever a simulated push or hand-off does in one step, a caller of a crowd can
do as well, and both leave the same claims behind.
-/

set_option autoImplicit false

namespace AmqpClient.Simulation

open Publisher (Plan Desk Crowd Caller Errand)

/-- A crowd around a world, in which one caller stands where a task stands. -/
structure Attends (crowd : Crowd) (world : World) (ticket : Nat) (errand : Errand) : Prop where
  now : crowd.now = world.now
  cells : crowd.cells = world.cells
  claims : crowd.claims = world.claims
  present : ∃ marks, crowd.callers ticket = some { errand, marks }

/-- The world goes on, but nothing happens to the claims. -/
structure World.Follows (after before : World) : Prop where
  now : after.now = before.now
  claims : after.claims = before.claims
  raised : before.cells.isShutDown = true → after.cells.isShutDown = true

theorem World.SharesWith.follows {after before : World} (shares : after.SharesWith before) :
    after.Follows before :=
  ⟨shares.now, shares.claims, fun raised => shares.cells ▸ raised⟩

private theorem requestShutdown_follows (world : World) : world.requestShutdown.Follows world := by
  unfold World.requestShutdown SupervisorCells.beginShutdown SupervisorCells.raiseShutdown
  split
  · next cells raised =>
    split at raised
    · cases raised
    · cases raised
      refine ⟨rfl, rfl, fun _ => ?_⟩
      unfold SupervisorCells.takeHandle
      split <;> rfl
  · exact ⟨rfl, rfl, id⟩

private theorem awaitConfirmation_cases {world : World} {task : Task} {confirmation : Nat}
    {deadline? : Option Nat} {confirmed : World → Except ClientError Confirmation → Progress}
    {expired : World → Progress} {progress : Progress}
    (taken : world.awaitConfirmation task confirmation deadline? confirmed expired =
      some progress) :
    (∃ after outcome, progress = confirmed after outcome ∧ after.Follows world) ∨
      (∃ after, progress = { world := after, task? := some task } ∧ after.SharesWith world) ∨
      world.isOverdue deadline? = true ∧ progress = expired world := by
  unfold World.awaitConfirmation at taken
  split at taken
  · next broker outcome requests _ =>
    cases taken
    refine .inl ⟨_, _, rfl, ?_⟩
    split
    · have follows := requestShutdown_follows { world with broker }
      exact ⟨follows.now, follows.claims, follows.raised⟩
    · exact ⟨rfl, rfl, id⟩
  · cases taken
    exact .inr (.inl ⟨_, rfl, rfl, rfl, rfl, rfl, rfl⟩)
  · split at taken
    · next overdue =>
      cases taken
      exact .inr (.inr ⟨overdue, rfl⟩)
    · cases taken

private theorem Attends.follow (desk : Desk) {crowd : Crowd} {world after : World} {ticket : Nat}
    {errand : Errand} (attends : Attends crowd world ticket errand)
    (follows : after.Follows world) :
    ∃ next : Crowd, Publisher.Step desk crowd next ∧ Attends next after ticket errand ∧
      next.signals = after.signals := by
  refine ⟨_, .around crowd after.signals after.cells 0 ?_, ⟨?_, rfl, ?_, attends.present⟩, rfl⟩
  · intro raised
    exact follows.raised (attends.cells ▸ raised)
  · exact attends.now.trans follows.now.symm
  · exact attends.claims.trans follows.claims.symm

theorem Attends.share {crowd : Crowd} {world after : World} {ticket : Nat} {errand : Errand}
    (attends : Attends crowd world ticket errand) (shares : after.SharesWith world) :
    Attends crowd after ticket errand :=
  ⟨attends.now.trans shares.now.symm, attends.cells.trans shares.cells.symm,
    attends.claims.trans shares.claims.symm, attends.present⟩

theorem Attends.put {crowd : Crowd} {world : World} {ticket : Nat} {errand : Errand}
    (attends : Attends crowd world ticket errand) (caller : Caller) (line : Claims) :
    Attends (crowd.put ticket (some caller) line) { world with claims := line } ticket
      caller.errand :=
  ⟨attends.now, attends.cells, rfl, caller.marks, by simp [Crowd.callers_put]⟩

/-! ## Pushes -/

section

variable {desk : Desk} {plan : Plan} {crowd : Crowd} {world : World} {task : Task}
  {looks : Bool} {progress : Progress}

/-- The crowd's caller stands where the simulated push has come to. -/
def PushArrives (plan : Plan) (ticket : Nat) (progress : Progress) (crowd : Crowd) : Prop :=
  match progress.task? with
  | none => ∃ result, Attends crowd progress.world ticket (.push plan (.finished result))
  | some task =>
    task.id = ticket ∧
      ∃ point, task.job = .push plan point ∧ Attends crowd progress.world ticket (.push plan point)

def pushReaction (world : World) (task : Task) (plan : Plan) (point : Publisher.Push.Point)
    (event : Publisher.Push.Event) : Progress :=
  let reaction :=
    Publisher.Push.react plan world.signals world.cells world.now task.id world.claims point event
  let world := { world with claims := reaction.claims }.notify reaction.notices
  match reaction.next with
  | .proceed (.finished result) => world.endTask task (.ofUnit result)
  | .proceed point => { world, task? := some (task.continueWith (.push plan point)) }
  | .await point => { world, task? := some (task.continueWith (.push plan point)), looks := true }

private theorem stepPush_eq (world : World) (task : Task) (looks : Bool) (plan : Plan)
    (point : Publisher.Push.Point) :
    stepPush world task looks plan point =
      match if looks then point.interrupt? world.cells world.claims task.id else none with
      | some event => some (pushReaction world task plan point event)
      | none =>
        match point.call? plan, point.confirmation? with
        | some call, _ =>
          world.awaitCall task call none point.deadline?
            (fun world reply => pushReaction world task plan point (.replied reply))
            (fun world => pushReaction world task plan point .expired)
        | none, some confirmation =>
          world.awaitConfirmation task confirmation point.deadline?
            (fun world outcome => pushReaction world task plan point (.confirmed outcome))
            (fun world => pushReaction world task plan point .expired)
        | none, none =>
          if world.isOverdue point.deadline? then
            some (pushReaction world task plan point .expired)
          else none :=
  rfl

/-- Both meet an event that can occur in the same way. -/
theorem push_arrives {point : Publisher.Push.Point} {event : Publisher.Push.Event}
    (attends : Attends crowd world task.id (.push plan point))
    (signals : crowd.signals = world.signals)
    (occurs : Publisher.Push.Occurs plan world.cells world.claims world.now task.id point event) :
    ∃ after, Publisher.Step desk crowd after ∧
      PushArrives plan task.id (pushReaction world task plan point event) after := by
  obtain ⟨marks, present⟩ := attends.present
  rw [← attends.cells, ← attends.claims, ← attends.now] at occurs
  refine ⟨_, .push task.id present occurs, ?_⟩
  simp only [Crowd.stepPush, pushReaction, attends.cells, attends.claims, attends.now, signals]
  generalize Publisher.Push.react plan world.signals world.cells world.now task.id world.claims
    point event = reaction
  obtain ⟨line, next, notices⟩ := reaction
  have arrives (caller : Caller) := (attends.put caller line).share
    (World.notify_shares notices { world with claims := line })
  cases next with
  | await next => exact ⟨rfl, next, rfl, arrives _⟩
  | proceed next =>
      cases next with
      | finished result => exact ⟨result, (arrives _).share (World.complete_shares _ _ _)⟩
      | _ => exact ⟨rfl, _, rfl, arrives _⟩

/-- A caller of a crowd can make the step that a simulated push makes. -/
theorem exists_steps_of_stepPush {point : Publisher.Push.Point}
    (attends : Attends crowd world task.id (.push plan point)) (job : task.job = .push plan point)
    (taken : stepPush world task looks plan point = some progress) :
    ∃ after, Publisher.Steps desk crowd after ∧ PushArrives plan task.id progress after := by
  have react {after : World} {event : Publisher.Push.Event} (follows : after.Follows world)
      (occurs : Publisher.Push.Occurs plan after.cells after.claims after.now task.id point
        event) :
      ∃ next, Publisher.Steps desk crowd next ∧
        PushArrives plan task.id (pushReaction after task plan point event) next := by
    obtain ⟨ready, follow, attending, signals⟩ := attends.follow desk follows
    obtain ⟨next, step, arrives⟩ := push_arrives attending signals occurs
    exact ⟨next, (Relation.ReflTransGen.single follow).tail step, arrives⟩
  have same := (World.SharesWith.refl world).follows
  have expire (overdue : world.isOverdue point.deadline? = true) :
      ∃ next, Publisher.Steps desk crowd next ∧
        PushArrives plan task.id (pushReaction world task plan point .expired) next := by
    obtain ⟨deadline, limit, due⟩ := World.exists_deadline_of_overdue overdue
    exact react same (.expire limit due)
  rw [stepPush_eq] at taken
  cases found : if looks then point.interrupt? world.cells world.claims task.id else none with
  | some event =>
      rw [found] at taken
      cases taken
      rw [Option.ite_none_right_eq_some] at found
      exact react same (.interrupt found.2)
  | none =>
      rw [found] at taken
      cases pending : point.call? plan with
      | some call =>
          rw [pending] at taken
          rcases World.awaitCall_cases taken with ⟨after, play, rfl, shares⟩ |
            ⟨after, reply, rfl, shares, answers⟩ | ⟨overdue, rfl⟩
          · -- A call that goes on is no step of the crowd.
            exact ⟨crowd, .refl, rfl, point, job, attends.share shares⟩
          · exact react shares.follows (.reply reply pending answers)
          · exact expire overdue
      | none =>
          rw [pending] at taken
          cases awaited : point.confirmation? with
          | some id =>
              rw [awaited] at taken
              rcases awaitConfirmation_cases taken with ⟨after, outcome, rfl, follows⟩ |
                ⟨after, rfl, shares⟩ | ⟨overdue, rfl⟩
              · exact react follows (.confirm outcome awaited)
              · exact ⟨crowd, .refl, rfl, point, job, attends.share shares⟩
              · exact expire overdue
          | none =>
              rw [awaited] at taken
              dsimp only at taken
              split at taken
              · next overdue =>
                cases taken
                exact expire overdue
              · cases taken

/-! ## Hand-offs -/

/-- The crowd's caller stands where the simulated hand-off has come to. One that has been
written goes on as the confirmation that its caller keeps. -/
def HandOffArrives (plan : Plan) (ticket : Nat) (progress : Progress) (crowd : Crowd) : Prop :=
  match progress.task? with
  | none =>
    ∃ errand, Attends crowd progress.world ticket errand ∧
      ((∃ session id, errand = .confirmation session id) ∨
        ∃ error, errand = .handOff plan (.finished (.error error)))
  | some task =>
    task.id = ticket ∧
      ∃ point, task.job = .handOff plan point ∧
        Attends crowd progress.world ticket (.handOff plan point)

def handOffReaction (world : World) (task : Task) (plan : Plan)
    (point : Publisher.HandOff.Point) (event : Publisher.HandOff.Event) : Progress :=
  let reaction :=
    Publisher.HandOff.react plan world.signals world.cells world.now task.id world.claims point
      event
  let world := { world with claims := reaction.claims }.notify reaction.notices
  match reaction.next with
  | .proceed (.finished (.ok confirmation)) =>
    let kept := { label := task.label.getD "", confirmation, ticket := task.id }
    (world.keep kept).endTask task .pending
  | .proceed (.finished (.error error)) => world.endTask task (.failed error)
  | .proceed point => { world, task? := some (task.continueWith (.handOff plan point)) }
  | .await point =>
    { world, task? := some (task.continueWith (.handOff plan point)), looks := true }

private theorem stepHandOff_eq (world : World) (task : Task) (looks : Bool) (plan : Plan)
    (point : Publisher.HandOff.Point) :
    stepHandOff world task looks plan point =
      match if looks then point.interrupt? world.cells world.claims task.id else none with
      | some event => some (handOffReaction world task plan point event)
      | none =>
        match point.call? plan with
        | some call =>
          world.awaitCall task call none point.deadline?
            (fun world reply => handOffReaction world task plan point (.replied reply))
            (fun world => handOffReaction world task plan point .expired)
        | none =>
          if world.isOverdue point.deadline? then
            some (handOffReaction world task plan point .expired)
          else none :=
  rfl

theorem Attends.keep {ticket : Nat} {errand : Errand} (kept : KeptConfirmation)
    (attends : Attends crowd world ticket errand)
    (fresh : ∀ other ∈ world.kept, other.label ≠ kept.label) :
    Attends crowd (world.keep kept) ticket errand := by
  have none : world.kept.filter (·.label = kept.label) = [] := by
    rw [List.filter_eq_nil_iff]
    intro other member
    simpa using fresh other member
  unfold World.keep
  rw [none]
  exact ⟨attends.now, attends.cells, attends.claims, attends.present⟩

private theorem afterHandOff_of_unwritten (plan : Plan) (point next : Publisher.HandOff.Point)
    (unwritten : ∀ id, next ≠ .finished (.ok id)) :
    Errand.afterHandOff plan point next = .handOff plan next := by
  unfold Errand.afterHandOff
  split
  · exact absurd rfl (unwritten _)
  · rfl

/-- A hand-off that is to look at its interrupts has not been written just now. -/
theorem afterHandOff_of_await {signals : Signals} {cells : SupervisorCells} {now ticket : Nat}
    {claims : Claims} {point next : Publisher.HandOff.Point} {event : Publisher.HandOff.Event}
    (awaits : (Publisher.HandOff.react plan signals cells now ticket claims point event).next =
      .await next) :
    Errand.afterHandOff plan point next = .handOff plan next := by
  have came : next = point ∨ ∃ session, next = .claiming session := by
    cases point with
    | entry =>
        cases event with
        | begin =>
            simp only [Publisher.HandOff.react, Publisher.HandOff.begin] at awaits
            split at awaits
            · cases awaits
              exact .inr ⟨_, rfl⟩
            · cases awaits
        | _ =>
            cases awaits
            exact .inl rfl
    | claiming session =>
        cases event with
        | shutdown | granted => cases awaits
        | _ =>
            cases awaits
            exact .inl rfl
    | publishing session deadline =>
        cases event with
        | shutdown | expired => cases awaits
        | replied reply => cases reply <;> cases awaits
        | _ =>
            cases awaits
            exact .inl rfl
    | finished result =>
        cases awaits
        exact .inl rfl
  rcases came with rfl | ⟨session, rfl⟩
  · cases next <;> rfl
  · exact afterHandOff_of_unwritten plan point _ (by simp)

private theorem exists_publishing_of_proceed {signals : Signals} {cells : SupervisorCells}
    {now ticket id : Nat} {claims : Claims} {point : Publisher.HandOff.Point}
    {event : Publisher.HandOff.Event}
    (written : (Publisher.HandOff.react plan signals cells now ticket claims point event).next =
      .proceed (.finished (.ok id))) :
    ∃ session deadline, point = .publishing session deadline := by
  cases point with
  | publishing session deadline => exact ⟨session, deadline, rfl⟩
  | entry =>
      cases event with
      | begin =>
          simp only [Publisher.HandOff.react, Publisher.HandOff.begin] at written
          split at written <;> cases written
      | _ => cases written
  | claiming session => cases event <;> cases written
  | finished result => cases written

private theorem handOff_arrives {point : Publisher.HandOff.Point} {event : Publisher.HandOff.Event}
    (attends : Attends crowd world task.id (.handOff plan point))
    (signals : crowd.signals = world.signals)
    (fresh : ∀ other ∈ world.kept, other.label ≠ task.label.getD "")
    (occurs : Publisher.HandOff.Occurs plan world.cells world.claims world.now task.id point
      event) :
    ∃ after, Publisher.Step desk crowd after ∧
      HandOffArrives plan task.id (handOffReaction world task plan point event) after := by
  obtain ⟨marks, present⟩ := attends.present
  rw [← attends.cells, ← attends.claims, ← attends.now] at occurs
  refine ⟨_, .handOff task.id present occurs, ?_⟩
  simp only [Crowd.stepHandOff, handOffReaction, attends.cells, attends.claims, attends.now,
    signals]
  generalize reacted : Publisher.HandOff.react plan world.signals world.cells world.now task.id
    world.claims point event = reaction
  obtain ⟨line, next, notices⟩ := reaction
  have arrives (caller : Caller) := (attends.put caller line).share
    (World.notify_shares notices { world with claims := line })
  cases next with
  | await next =>
      have same : Errand.afterHandOff plan point next = .handOff plan next :=
        afterHandOff_of_await (congrArg _ reacted)
      exact ⟨rfl, next, rfl, same ▸ arrives { errand := .afterHandOff plan point next }⟩
  | proceed next =>
      match next with
      | .finished (.ok id) =>
          obtain ⟨session, deadline, rfl⟩ := exists_publishing_of_proceed (congrArg _ reacted)
          let ended := { world with claims := line }.notify notices
          let kept : KeptConfirmation :=
            { label := task.label.getD "", confirmation := id, ticket := task.id }
          have keeping := (arrives { errand := .confirmation session id }).keep kept fresh
          have told := World.complete_shares task.label .pending (ended.keep kept)
          exact ⟨_, keeping.share told, .inl ⟨session, id, rfl⟩⟩
      | .finished (.error error) =>
          have ended := arrives { errand := .afterHandOff plan point (.finished (.error error)) }
          exact ⟨_, ended.share (World.complete_shares _ _ _),
            .inr ⟨error, afterHandOff_of_unwritten plan point _ (by simp)⟩⟩
      | .entry =>
          have same := afterHandOff_of_unwritten plan point .entry (by simp)
          exact ⟨rfl, _, rfl, same ▸ arrives { errand := .afterHandOff plan point .entry }⟩
      | .claiming session =>
          have same := afterHandOff_of_unwritten plan point (.claiming session) (by simp)
          exact ⟨rfl, _, rfl,
            same ▸ arrives { errand := .afterHandOff plan point (.claiming session) }⟩
      | .publishing session deadline =>
          have same := afterHandOff_of_unwritten plan point (.publishing session deadline) (by simp)
          exact ⟨rfl, _, rfl,
            same ▸ arrives { errand := .afterHandOff plan point (.publishing session deadline) }⟩

/-- A caller of a crowd can make the step that a simulated hand-off makes. -/
theorem exists_steps_of_stepHandOff {point : Publisher.HandOff.Point}
    (attends : Attends crowd world task.id (.handOff plan point))
    (job : task.job = .handOff plan point)
    (fresh : ∀ other ∈ world.kept, other.label ≠ task.label.getD "")
    (taken : stepHandOff world task looks plan point = some progress) :
    ∃ after, Publisher.Steps desk crowd after ∧ HandOffArrives plan task.id progress after := by
  have react {after : World} {event : Publisher.HandOff.Event} (shares : after.SharesWith world)
      (occurs : Publisher.HandOff.Occurs plan after.cells after.claims after.now task.id point
        event) :
      ∃ next, Publisher.Steps desk crowd next ∧
        HandOffArrives plan task.id (handOffReaction after task plan point event) next := by
    obtain ⟨ready, follow, attending, signals⟩ := attends.follow desk shares.follows
    obtain ⟨next, step, arrives⟩ := handOff_arrives attending signals (shares.kept ▸ fresh) occurs
    exact ⟨next, (Relation.ReflTransGen.single follow).tail step, arrives⟩
  have same := World.SharesWith.refl world
  have expire (overdue : world.isOverdue point.deadline? = true) :
      ∃ next, Publisher.Steps desk crowd next ∧
        HandOffArrives plan task.id (handOffReaction world task plan point .expired) next := by
    obtain ⟨deadline, limit, due⟩ := World.exists_deadline_of_overdue overdue
    exact react same (.expire limit due)
  rw [stepHandOff_eq] at taken
  cases found : if looks then point.interrupt? world.cells world.claims task.id else none with
  | some event =>
      rw [found] at taken
      cases taken
      rw [Option.ite_none_right_eq_some] at found
      exact react same (.interrupt found.2)
  | none =>
      rw [found] at taken
      cases pending : point.call? plan with
      | some call =>
          rw [pending] at taken
          rcases World.awaitCall_cases taken with ⟨after, play, rfl, shares⟩ |
            ⟨after, reply, rfl, shares, answers⟩ | ⟨overdue, rfl⟩
          · exact ⟨crowd, .refl, rfl, point, job, attends.share shares⟩
          · exact react shares (.reply reply pending answers)
          · exact expire overdue
      | none =>
          rw [pending] at taken
          dsimp only at taken
          split at taken
          · next overdue =>
            cases taken
            exact expire overdue
          · cases taken

end

end AmqpClient.Simulation
