import AmqpClient.Proofs.Publisher.Slot
import AmqpClient.Supervisor.Waiter

/-!
# From a session to a write

A caller looks for a ready session once and waits for its slot, for as long as it
takes. With the slot it writes on the channel of that session, without another look at
what session is ready by then. Only a shutdown keeps it from writing.
-/

set_option autoImplicit false

namespace AmqpClient.Publisher

/-! ## Waiting and writing -/

namespace Errand

/-- The session for whose slot an errand waits. -/
def waiting? : Errand → Option Session
  | .push _ (.claiming session) | .handOff _ (.claiming session) => some session
  | _ => none

/-- The session on whose channel a publish call is under way. -/
def writing? : Errand → Option Session
  | .push _ (.publishing session _) | .handOff _ (.publishing session _) => some session
  | _ => none

end Errand

private theorem waiting?_errand (desk : Desk) (request : Request) (id : MessageId) :
    (desk.errand request id).waiting? = none ∧ (desk.errand request id).writing? = none := by
  unfold Desk.errand
  split <;> exact ⟨rfl, rfl⟩

/-- A caller makes its publish call. -/
def Crowd.Publishes (before after : Crowd) (ticket : Nat) (session : Session) : Prop :=
  (∀ former, before.callers ticket = some former → former.errand.writing? = none) ∧
    ∃ caller, after.callers ticket = some caller ∧ caller.errand.writing? = some session

/-- What an event may do to a caller on its way to a write. -/
inductive Approach (signals : Signals) (cells : SupervisorCells) (claims : Claims) (ticket : Nat)
    (before after : Errand) : Prop where
  | stay (same : after = before)
  | look (session : Session) (found : cells.readySession signals = .ok session)
      (waits : after.waiting? = some session) (unwritten : after.writing? = none)
  | write (session : Session) (waited : before.waiting? = some session)
      (up : cells.isShutDown = false) (first : claims.holder? session.generation = some ticket)
      (moved : after.waiting? = none) (writes : after.writing? = some session)
  | leave (gone : after.waiting? = none) (unwritten : after.writing? = none)

section

variable {plan : Plan} {signals : Signals} {cells : SupervisorCells} {now ticket : Nat}
  {claims line : Claims}

private theorem attempt_approach (before : Errand) (notices : List Notice) :
    Approach signals cells claims ticket before
      (.push plan (Push.attempt plan signals cells now ticket line notices).next.point) := by
  unfold Push.attempt
  split
  · next session found => exact .look session found rfl rfl
  · exact .leave rfl rfl
  · exact .leave rfl rfl

private theorem push_approach {point : Push.Point} {event : Push.Event}
    (occurs : Push.Occurs plan cells claims now ticket point event) :
    Approach signals cells claims ticket (.push plan point)
      (.push plan (Push.react plan signals cells now ticket claims point event).next.point) := by
  cases point with
  | entry =>
      cases event with
      | begin =>
          simp only [Push.react, Push.begin]
          split
          · exact attempt_approach _ _
          · exact .leave rfl rfl
      | _ => exact .stay rfl
  | claiming session =>
      cases event with
      | shutdown => exact .leave rfl rfl
      | granted =>
          cases occurs with
          | interrupt found =>
              obtain ⟨up, first⟩ := first_of_granted found (by rintro ⟨⟩)
              exact .write session rfl up first rfl rfl
      | _ => exact .stay rfl
  | publishing session deadline =>
      cases event with
      | shutdown => exact .leave rfl rfl
      | replied reply => cases reply <;> exact .leave rfl rfl
      | expired => exact .leave rfl rfl
      | _ => exact .stay rfl
  | confirming session confirmation deadline =>
      cases event with
      | shutdown => exact .leave rfl rfl
      | confirmed outcome =>
          cases outcome with
          | error error => exact .leave rfl rfl
          | ok confirmation =>
              cases confirmation with
              | nack => exact attempt_approach _ _
              | ack | notRequested => exact .leave rfl rfl
      | expired => exact attempt_approach _ _
      | _ => exact .stay rfl
  | pausing deadline =>
      cases event with
      | shutdown => exact .leave rfl rfl
      | expired => exact attempt_approach _ _
      | _ => exact .stay rfl
  | finished result => exact .stay rfl

private theorem handOff_approach {point : HandOff.Point} {event : HandOff.Event}
    (occurs : HandOff.Occurs plan cells claims now ticket point event) :
    Approach signals cells claims ticket (.handOff plan point)
      (.afterHandOff plan point
        (HandOff.react plan signals cells now ticket claims point event).next.point) := by
  cases point with
  | entry =>
      cases event with
      | begin =>
          simp only [HandOff.react, HandOff.begin]
          split
          · next session found => exact .look session found rfl rfl
          · exact .leave rfl rfl
      | _ => exact .stay rfl
  | claiming session =>
      cases event with
      | shutdown => exact .leave rfl rfl
      | granted =>
          cases occurs with
          | interrupt found =>
              obtain ⟨up, first⟩ := first_of_granted found (by rintro ⟨⟩)
              exact .write session rfl up first rfl rfl
      | _ => exact .stay rfl
  | publishing session deadline =>
      cases event with
      | shutdown => exact .leave rfl rfl
      | replied reply => cases reply <;> exact .leave rfl rfl
      | expired => exact .leave rfl rfl
      | _ => exact .stay rfl
  | finished result => exact .stay rfl

end

/-! ## Steps -/

namespace Crowd

variable {desk : Desk} {before after : Crowd} {ticket : Nat} {session : Session}

theorem approach_of_step (step : Step desk before after) {caller : Caller}
    (present : after.callers ticket = some caller) :
    (caller.errand.waiting? = none ∧ caller.errand.writing? = none) ∨
      ∃ former, before.callers ticket = some former ∧
        Approach before.signals before.cells before.claims ticket former.errand caller.errand := by
  have other (same : after.callers ticket = before.callers ticket) :
      ∃ former, before.callers ticket = some former ∧
        Approach before.signals before.cells before.claims ticket former.errand caller.errand :=
    ⟨caller, same ▸ present, .stay rfl⟩
  have beside {actor : Nat} {caller? : Option Caller} {claims : Claims}
      (same : after = before.put actor caller? claims) (apart : ticket ≠ actor) :
      after.callers ticket = before.callers ticket := by
    rw [same, callers_put, if_neg apart]
  cases step with
  | around => exact .inr (other rfl)
  | arrive request =>
      by_cases own : ticket = before.arrivals
      · rw [callers_welcome, if_pos own] at present
        cases present
        exact .inl (waiting?_errand desk request _)
      · exact .inr (other (by rw [callers_welcome, if_neg own]))
  | push actor found occurs =>
      by_cases own : ticket = actor
      · subst own
        rw [Crowd.stepPush, callers_put, if_pos rfl] at present
        cases present
        exact .inr ⟨_, found, push_approach occurs⟩
      · exact .inr (other (beside rfl own))
  | handOff actor found occurs =>
      by_cases own : ticket = actor
      · subst own
        rw [Crowd.stepHandOff, callers_put, if_pos rfl] at present
        cases present
        exact .inr ⟨_, found, handOff_approach occurs⟩
      · exact .inr (other (beside rfl own))
  | resolve | drop =>
      rw [Crowd.dismiss, callers_put] at present
      split at present
      · cases present
      · next apart => exact .inr (other (beside rfl apart))

/-- A publish call is made only by a caller who has waited for the session's slot, has it,
and has not been told of a shutdown. -/
theorem waited_of_publishes (step : Step desk before after)
    (publishes : before.Publishes after ticket session) :
    before.cells.isShutDown = false ∧
      before.claims.holder? session.generation = some ticket ∧
      ∃ former, before.callers ticket = some former ∧ former.errand.waiting? = some session := by
  obtain ⟨unwritten, caller, present, writes⟩ := publishes
  rcases approach_of_step step present with ⟨-, idle⟩ | ⟨former, found, approach⟩
  · cases idle.symm.trans writes
  · cases approach with
    | stay same => cases (same ▸ unwritten former found).symm.trans writes
    | look other ready waiting idle | leave gone idle => cases idle.symm.trans writes
    | write session waited up first moved written =>
        cases written.symm.trans writes
        exact ⟨up, first, former, found, waited⟩

/-- A caller that waits for a session's slot has just found the session ready, or has
waited for it before. -/
theorem found_or_waited (step : Step desk before after) {caller : Caller}
    (present : after.callers ticket = some caller) (waits : caller.errand.waiting? = some session) :
    before.cells.readySession before.signals = .ok session ∨
      ∃ former, before.callers ticket = some former ∧ former.errand.waiting? = some session := by
  rcases approach_of_step step present with ⟨idle, -⟩ | ⟨former, found, approach⟩
  · cases idle.symm.trans waits
  · cases approach with
    | stay same => exact .inr ⟨former, found, same ▸ waits⟩
    | look other ready waiting idle =>
        cases waiting.symm.trans waits
        exact .inl ready
    | write other waited up first moved written => cases moved.symm.trans waits
    | leave gone idle => cases gone.symm.trans waits

end Crowd

/-! ## After a shutdown -/

/-- The errand has not been looked at yet, or it was refused. -/
def Errand.IsTurnedAway : Errand → Prop
  | .push _ .entry | .push _ (.finished (.error .shutdown)) => True
  | .handOff _ .entry | .handOff _ (.finished (.error .shutdown)) => True
  | .refused => True
  | _ => False

private theorem isTurnedAway_errand (desk : Desk) (request : Request) (id : MessageId) :
    (desk.errand request id).IsTurnedAway := by
  unfold Desk.errand
  split <;> exact trivial

/-- Everyone who asks is told of the shutdown at once. -/
structure Crowd.Refuses (crowd : Crowd) : Prop where
  session : crowd.cells.readySession crowd.signals = .error .shutdown
  waiter : ∀ waiter : SessionWaiter, waiter.poll crowd.signals crowd.cells = .ok (.error .shutdown)
  push : ∀ plan ticket,
    (Push.react plan crowd.signals crowd.cells crowd.now ticket crowd.claims .entry .begin).next =
      .proceed (.finished (.error .shutdown))
  handOff : ∀ plan ticket,
    (HandOff.react plan crowd.signals crowd.cells crowd.now ticket crowd.claims .entry
      .begin).next = .proceed (.finished (.error .shutdown))

namespace Crowd

variable {desk : Desk} {crowd after : Crowd}

theorem refuses_of_isShutDown (isShutDown : crowd.cells.isShutDown = true) : crowd.Refuses := by
  have session : crowd.cells.readySession crowd.signals = .error .shutdown := by
    simp [SupervisorCells.readySession, isShutDown]
  constructor
  · exact session
  · intro waiter
    simp [SessionWaiter.poll, isShutDown]
  · intro plan ticket
    simp [Push.react, Push.begin, Push.finish, session]
  · intro plan ticket
    simp [HandOff.react, HandOff.begin, HandOff.fail, session]

private theorem Refuses.push_next (refuses : crowd.Refuses) (ticket : Nat) {plan : Plan}
    {point : Push.Point} (event : Push.Event) (away : (Errand.push plan point).IsTurnedAway) :
    (Errand.push plan (Push.react plan crowd.signals crowd.cells crowd.now ticket crowd.claims
      point event).next.point).IsTurnedAway := by
  cases point with
  | entry =>
      cases event with
      | begin =>
          rw [refuses.push plan ticket]
          exact trivial
      | _ => exact away
  | finished => exact away
  | _ => cases away

private theorem Refuses.handOff_next (refuses : crowd.Refuses) (ticket : Nat) {plan : Plan}
    {point : HandOff.Point} (event : HandOff.Event)
    (away : (Errand.handOff plan point).IsTurnedAway) :
    (Errand.afterHandOff plan point (HandOff.react plan crowd.signals crowd.cells crowd.now ticket
      crowd.claims point event).next.point).IsTurnedAway := by
  cases point with
  | entry =>
      cases event with
      | begin =>
          rw [refuses.handOff plan ticket]
          exact trivial
      | _ => exact away
  | finished => exact away
  | _ => cases away

/-- Whoever has come since some ticket was drawn was turned away. -/
def TurnsAway (ticket : Nat) (crowd : Crowd) : Prop :=
  ∀ other caller, ticket ≤ other → crowd.callers other = some caller → caller.errand.IsTurnedAway

theorem TurnsAway.put {ticket actor : Nat} {caller? : Option Caller}
    (away : crowd.TurnsAway ticket) (claims : Claims)
    (own : ∀ caller, ticket ≤ actor → caller? = some caller → caller.errand.IsTurnedAway) :
    (crowd.put actor caller? claims).TurnsAway ticket := by
  intro other caller late present
  rw [callers_put] at present
  split at present
  · next same =>
    subst same
    exact own caller late present
  · exact away other caller late present

theorem TurnsAway.step {ticket : Nat} (away : crowd.TurnsAway ticket)
    (isShutDown : crowd.cells.isShutDown = true) (step : Step desk crowd after) :
    after.TurnsAway ticket := by
  have refuses := refuses_of_isShutDown isShutDown
  cases step with
  | around => exact away
  | arrive request =>
      refine TurnsAway.put away crowd.claims ?_
      rintro caller - ⟨⟩
      exact isTurnedAway_errand desk request _
  | push actor found occurs =>
      refine TurnsAway.put away _ ?_
      rintro caller late ⟨⟩
      exact refuses.push_next actor _ (away actor _ late found)
  | handOff actor found occurs =>
      refine TurnsAway.put away _ ?_
      rintro caller late ⟨⟩
      exact refuses.handOff_next actor _ (away actor _ late found)
  | resolve | drop =>
      refine TurnsAway.put away _ ?_
      rintro caller - ⟨⟩

end Crowd

end AmqpClient.Publisher
