import AmqpClient.Simulation.Step

/-!
# Replies of the simulated broker

Whatever comes back from a call, in memory or over a network, is an answer of the
form that the call asks for, or a failure. A look at a call changes the broker
and the records, and nothing that the client's parts share.
-/

set_option autoImplicit false

namespace AmqpClient

/-- A reply is a failure, or an answer that the call asks for. -/
def Answers (call : Call) (reply : Reply) : Prop :=
  ∀ answer, reply = .ok answer → answer.answers call = true

namespace Wire.Link

variable {σ : Type} (link : Link σ)

private theorem request_answers {call : Call} {answer : Nat → Answer} (operation : Operation)
    (state : σ)
    (fits : ∀ number, (answer number).answers call = true) :
    Answers call (link.request call operation answer state).1 := by
  intro given same
  unfold request at same
  dsimp only at same
  split at same
  · cases same
    exact fits _
  · cases same

private theorem lookUp_answers {call : Call} (channel : Nat) (method : Method) (state : σ)
    (fits : ∀ isFound, (Answer.found isFound).answers call = true) :
    Answers call (link.lookUp call channel method state).1 := by
  intro given same
  unfold lookUp at same
  dsimp only at same
  split at same
  · cases same
  · simp only at same
    unfold lookUpReply at same
    split at same
    · cases same
      exact fits true
    · split at same
      · cases same
        exact fits false
      · cases same

private theorem perform_answers (call : Call) (state : σ) :
    Answers call (link.perform call state).1 := by
  cases call with
  | queueExists | exchangeExists => exact link.lookUp_answers _ _ _ fun _ => rfl
  | closeChannel channel =>
      unfold perform
      dsimp only
      split
      · exact link.request_answers _ _ fun _ => rfl
      · intro given same
        cases same
        rfl
  | closeConnection connection =>
      unfold perform
      dsimp only
      split
      · exact link.request_answers _ _ fun _ => rfl
      · intro given same
        cases same
        rfl
  | _ => exact link.request_answers _ _ fun _ => rfl

end Wire.Link

namespace Simulation

namespace Broker

private theorem effect_answers (behaviour : Behaviour) (broker : Broker) (call : Call) :
    (broker.effect behaviour call).2.answers call = true := by
  cases call with
  | connect | openChannel =>
      unfold effect
      dsimp only
      split <;> rfl
  | _ => rfl

private theorem answer_answers (behaviour : Behaviour) (call : Call) (broker : Broker) :
    Answers call (broker.answer behaviour call).2 := by
  unfold answer
  split
  · exact Wire.Network.link.perform_answers call _
  · intro given same
    cases same
    exact effect_answers behaviour broker call

private theorem resumeCall_answers {now : Nat} {call : Call} {play : Play} {broker after : Broker}
    {reply : Reply} (returned : broker.resumeCall now call play = (after, .returned reply)) :
    Answers call reply := by
  unfold resumeCall resume at returned
  split at returned
  · cases returned
  · dsimp only at returned
    split at returned
    · cases returned
    · split at returned
      · cases returned
        exact nofun
      · cases returned
        exact answer_answers _ _ _

end Broker

/-! ## Waiting for a call -/

/-- What the parts of a client share is as it was. -/
structure World.SharesWith (after before : World) : Prop where
  now : after.now = before.now
  cells : after.cells = before.cells
  claims : after.claims = before.claims
  kept : after.kept = before.kept
  consumptions : after.consumptions = before.consumptions

namespace World

theorem SharesWith.refl (world : World) : world.SharesWith world := ⟨rfl, rfl, rfl, rfl, rfl⟩

theorem complete_shares (label? : Option String) (result : TaskResult) (world : World) :
    (world.complete label? result).SharesWith world := by
  unfold complete
  split <;> exact ⟨rfl, rfl, rfl, rfl, rfl⟩

theorem notify_shares (notices : List Notice) (world : World) :
    (world.notify notices).SharesWith world :=
  ⟨rfl, rfl, rfl, rfl, rfl⟩

private theorem recordCall_shares (call : Call) (state? : Option SupervisorState) (world : World) :
    (world.recordCall call state?).SharesWith world := by
  cases call with
  | publish channel message =>
      unfold recordCall publicationPlace
      dsimp only
      split <;> exact ⟨rfl, rfl, rfl, rfl, rfl⟩
  | _ => exact ⟨rfl, rfl, rfl, rfl, rfl⟩

theorem exists_deadline_of_overdue {world : World} {deadline? : Option Nat}
    (overdue : world.isOverdue deadline? = true) :
    ∃ deadline, deadline? = some deadline ∧ deadline ≤ world.now := by
  cases deadline? with
  | none => cases overdue
  | some deadline => exact ⟨deadline, rfl, of_decide_eq_true overdue⟩

theorem awaitCall_cases {world : World} {task : Task} {call : Call}
    {state? : Option SupervisorState} {deadline? : Option Nat}
    {replied : World → Reply → Progress} {expired : World → Progress} {progress : Progress}
    (taken : world.awaitCall task call state? deadline? replied expired = some progress) :
    (∃ after play, progress = { world := after, task? := some (task.waitFor play) } ∧
        after.SharesWith world) ∨
      (∃ after reply, progress = replied after reply ∧ after.SharesWith world ∧
        Answers call reply) ∨
      world.isOverdue deadline? = true ∧ progress = expired world := by
  unfold awaitCall at taken
  split at taken
  · have shares := world.recordCall_shares call state?
    dsimp only at taken
    split at taken
    · cases taken
      exact .inr (.inl ⟨_, _, rfl, shares, nofun⟩)
    · cases taken
      exact .inl ⟨_, _, rfl, shares.now, shares.cells, shares.claims, shares.kept,
        shares.consumptions⟩
  · split at taken
    · next returned =>
      cases taken
      exact .inr (.inl
        ⟨_, _, rfl, ⟨rfl, rfl, rfl, rfl, rfl⟩, Broker.resumeCall_answers returned⟩)
    · cases taken
      exact .inl ⟨_, _, rfl, rfl, rfl, rfl, rfl, rfl⟩
    · split at taken
      · next overdue =>
        cases taken
        exact .inr (.inr ⟨overdue, rfl⟩)
      · cases taken

theorem exists_awaitCall {world : World} {task : Task} {call : Call}
    {state? : Option SupervisorState} {deadline? : Option Nat}
    {replied : World → Reply → Progress} {expired : World → Progress}
    (idle : task.play = none) :
    ∃ progress, world.awaitCall task call state? deadline? replied expired = some progress := by
  unfold awaitCall
  rw [idle]
  dsimp only
  split
  · exact ⟨_, rfl⟩
  · exact ⟨_, rfl⟩

end World

end Simulation

end AmqpClient
