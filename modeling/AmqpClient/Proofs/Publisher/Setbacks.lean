import AmqpClient.Proofs.Publisher.Outcome
import AmqpClient.Proofs.Wire.Failures

/-!
# What a push tries again for

A push pauses before another attempt on account of an error: there is no session, a write
has failed, or a confirmation was lost. None of these is fatal. A value that has no JSON
form never comes so far: it is refused before a session is looked for.
-/

set_option autoImplicit false

namespace AmqpClient.Publisher

namespace Push

def Point.isPause : Point → Bool
  | .pausing _ => true
  | _ => false

/-- Why an attempt finds no session, unless it is for a shutdown. -/
def unready? (signals : Signals) (cells : SupervisorCells) : Option ClientError :=
  match cells.readySession signals with
  | .ok _ | .error .shutdown => none
  | .error error => some error

/-- The error on account of which a push pauses before another attempt. -/
def Point.setback? (signals : Signals) (cells : SupervisorCells) :
    Point → Event → Option ClientError
  | .publishing .., .replied (.error error) => some error
  | .publishing .., .expired => some .channelTimeout
  | .confirming .., .confirmed (.error error) => some error
  | .confirming .., .confirmed (.ok .nack) => unready? signals cells
  | .confirming .., .expired => unready? signals cells
  | .pausing _, .expired => unready? signals cells
  | _, _ => none

/-- What an event tells was brought by a link. -/
structure Point.Carries (plan : Plan) (point : Point) (event : Event) : Prop where
  reply : ∀ reply call, event = .replied reply → point.call? plan = some call →
    Wire.Brings call reply
  confirmation : ∀ outcome, event = .confirmed outcome → Wire.BringsConfirmation outcome

/-- What a reaction makes of a failure. -/
inductive Copes (setback? : Option ClientError) (point : Point) (reaction : Reaction) : Prop where
  | stays (unmoved : setback? = none) (next : reaction.next = .await point)
  | goesOn (unmoved : setback? = none) (unpaused : reaction.next.point.isPause = false)
  | pauses {error : ClientError} (setback : setback? = some error)
      (reported : error.message ∈ reaction.notices.filterMap (·.error))

section

variable {plan : Plan} {signals : Signals} {cells : SupervisorCells} {now ticket : Nat}
  {claims : Claims} {point : Point} {event : Event}

private theorem unready?_eq_some {error : ClientError}
    (unready : unready? signals cells = some error) :
    error = .notConnected := by
  unfold unready? at unready
  split at unready
  · cases unready
  · cases unready
  · next other failed =>
    cases unready
    rcases readySession_error failed with ⟨rfl, -⟩ | same
    · exact absurd rfl other
    · exact same

private theorem attempt_copes (line : Claims) (notices : List Notice) :
    Copes (unready? signals cells) point
      (attempt plan signals cells now ticket line notices) := by
  unfold attempt unready?
  cases found : cells.readySession signals with
  | ok session => exact .goesOn rfl rfl
  | error error =>
      cases error with
      | shutdown => exact .goesOn rfl rfl
      | _ => exact .pauses rfl (by simp [pause, attemptFailed])

private theorem begin_copes : Copes none point (begin plan signals cells now ticket claims) := by
  unfold begin
  cases found : cells.readySession signals with
  | ok session =>
      simp only [attempt, found]
      exact .goesOn rfl rfl
  | error error => exact .goesOn rfl rfl

theorem react_copes :
    Copes (point.setback? signals cells event) point
      (react plan signals cells now ticket claims point event) := by
  cases point with
  | entry =>
      cases event with
      | begin => exact begin_copes
      | _ => exact .stays rfl rfl
  | claiming session =>
      cases event with
      | shutdown | granted => exact .goesOn rfl rfl
      | _ => exact .stays rfl rfl
  | publishing session deadline =>
      cases event with
      | shutdown => exact .goesOn rfl rfl
      | replied reply =>
          cases reply with
          | ok answer => exact .goesOn rfl rfl
          | error error => exact .pauses rfl (by simp [react, replied, pause, writeFailed])
      | expired => exact .pauses rfl (by simp [react, replied, pause, writeFailed])
      | _ => exact .stays rfl rfl
  | confirming session confirmation deadline =>
      cases event with
      | shutdown => exact .goesOn rfl rfl
      | confirmed outcome =>
          cases outcome with
          | ok confirmation =>
              cases confirmation with
              | ack | notRequested => exact .goesOn rfl rfl
              | nack => exact attempt_copes _ _
          | error error => exact .pauses rfl (by simp [react, confirmed, pause, unconfirmed])
      | expired => exact attempt_copes _ _
      | _ => exact .stays rfl rfl
  | pausing deadline =>
      cases event with
      | shutdown => exact .goesOn rfl rfl
      | expired => exact attempt_copes _ _
      | _ => exact .stays rfl rfl
  | finished result => exact .stays rfl rfl

theorem isTransient_of_setback? {error : ClientError} (carries : point.Carries plan event)
    (setback : point.setback? signals cells event = some error) : error.isTransient = true := by
  have unready (found : unready? signals cells = some error) : error.isTransient = true := by
    rw [unready?_eq_some found]
    rfl
  cases point with
  | publishing session deadline =>
      cases event with
      | replied reply =>
          cases reply with
          | ok answer => cases setback
          | error error =>
              cases setback
              exact (carries.reply _ _ rfl rfl).isTransient
      | expired =>
          cases setback
          rfl
      | _ => cases setback
  | confirming session confirmation deadline =>
      cases event with
      | confirmed outcome =>
          cases outcome with
          | ok confirmation =>
              cases confirmation with
              | ack | notRequested => cases setback
              | nack => exact unready setback
          | error error =>
              cases setback
              exact (carries.confirmation _ rfl).isTransient
      | expired => exact unready setback
      | _ => cases setback
  | pausing deadline =>
      cases event with
      | expired => exact unready setback
      | _ => cases setback
  | entry | claiming | finished => cases event <;> cases setback

end

/-- What a push tries again for. -/
structure RetriesTransient (plan : Plan) : Prop where
  /-- A pause goes on as it was, or begins on account of an error, which is reported. -/
  pauses : ∀ signals cells now ticket claims point event,
    let reaction := react plan signals cells now ticket claims point event
    reaction.next.point.isPause = true →
      reaction.next = .await point ∨
        ∃ error, point.setback? signals cells event = some error ∧
          error.message ∈ reaction.notices.filterMap (·.error)
  /-- Over a link, no such error is fatal. -/
  transient : ∀ signals cells (point : Point) event error, point.Carries plan event →
    point.setback? signals cells event = some error →
      error.isTransient = true ∧ error.isFatal = false

theorem retriesTransient (plan : Plan) : RetriesTransient plan where
  pauses := by
    intro signals cells now ticket claims point event reaction paused
    have copes : Copes (point.setback? signals cells event) point reaction := react_copes
    cases copes with
    | stays unmoved next => exact .inl next
    | goesOn unmoved unpaused => cases unpaused.symm.trans paused
    | pauses setback reported => exact .inr ⟨_, setback, reported⟩
  transient := by
    intro signals cells point event error carries setback
    have transient := isTransient_of_setback? carries setback
    exact ⟨transient, ClientError.not_isFatal_of_isTransient transient⟩

end Push

/-! ## Values without a JSON form -/

/-- The caller with a ticket was refused, and may have left since. -/
structure Crowd.HasRefused (ticket : Nat) (crowd : Crowd) : Prop where
  drawn : ticket < crowd.arrivals
  refused : ∀ caller, crowd.callers ticket = some caller → caller = { errand := .refused }

namespace Crowd.HasRefused

variable {desk : Desk} {crowd after : Crowd} {ticket : Nat}

theorem put {other : Nat} {successor? : Option Caller} (refuses : crowd.HasRefused ticket)
    (apart : other ≠ ticket) (line : Claims) :
    (crowd.put other successor? line).HasRefused ticket where
  drawn := refuses.drawn
  refused := by
    intro caller found
    rw [callers_put, if_neg apart.symm] at found
    exact refuses.refused caller found

theorem dismiss (refuses : crowd.HasRefused ticket) (other : Nat) :
    (crowd.dismiss other).HasRefused ticket where
  drawn := refuses.drawn
  refused := by
    intro caller found
    rw [Crowd.dismiss, callers_put] at found
    split at found
    · cases found
    · exact refuses.refused caller found

private theorem ne_of_present {other : Nat} {errand : Errand} {marks : List Mark}
    (refuses : crowd.HasRefused ticket) (present : crowd.callers other = some { errand, marks })
    (busy : errand ≠ .refused) : other ≠ ticket := by
  rintro rfl
  exact busy (congrArg Caller.errand (refuses.refused _ present))

theorem step (refuses : crowd.HasRefused ticket) (step : Step desk crowd after) :
    after.HasRefused ticket := by
  cases step with
  | around => exact ⟨refuses.drawn, refuses.refused⟩
  | arrive request =>
      refine ⟨Nat.lt_succ_of_lt refuses.drawn, fun caller found => ?_⟩
      rw [callers_welcome, if_neg (Nat.ne_of_lt refuses.drawn)] at found
      exact refuses.refused caller found
  | push other present => exact refuses.put (refuses.ne_of_present present nofun) _
  | handOff other present => exact refuses.put (refuses.ne_of_present present nofun) _
  | resolve | drop => exact refuses.dismiss _

theorem steps (refuses : crowd.HasRefused ticket) (steps : Steps desk crowd after) :
    after.HasRefused ticket := by
  induction steps with
  | refl => exact refuses
  | tail _ step ih => exact ih.step step

theorem welcome {request : Request} {details : String} (desk : Desk) (crowd : Crowd)
    (unserializable : request.content = .json (.error details)) :
    (crowd.welcome desk request).HasRefused crowd.arrivals where
  drawn := Nat.lt_succ_self _
  refused := by
    intro caller found
    rw [callers_welcome, if_pos rfl] at found
    cases found
    rw [Desk.errand, unserializable]

end Crowd.HasRefused

end AmqpClient.Publisher
