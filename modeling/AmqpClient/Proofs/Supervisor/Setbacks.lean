import AmqpClient.Proofs.Supervisor.Routes
import AmqpClient.Proofs.Wire.Failures

/-!
# What the loop tries again for

The loop pauses before another attempt on account of an error: that of a dial, of the
opening of a channel, or the one for which a channel was discarded after its setup had
failed. Over a link, with a topology that is valid, all of these errors are transient.
-/

set_option autoImplicit false

namespace AmqpClient.Supervisor

namespace Point

/-- The error on account of which the loop pauses before another attempt. -/
def setback? : Point → Event → Option ClientError
  | .dial _, .replied (.error error) => some error
  | .dial _, .expired => some .connectTimeout
  | .setup _ .openChannel _, .replied (.error error) => some error
  | .setup _ .openChannel _, .expired => some .channelTimeout
  | .setup _ (.discard _ cause) _, .replied _ => some cause
  | .setup _ (.discard _ cause) _, .expired => some cause
  | _, _ => none

/-- The error for which a channel is being discarded. -/
def cause? : Point → Option ClientError
  | .setup _ (.discard _ cause) _ => some cause
  | _ => none

/-- The loop neither pauses here nor discards a channel. -/
structure IsPlain (point : Point) : Prop where
  unpaused : point.isPause = false
  uncaused : point.cause? = none

end Point

/-- Why the setup of a channel has failed. -/
inductive CauseFrom (plan : Plan) (point : Point) (event : Event) : ClientError → Prop where
  | refused {cause : ClientError} (invalid : plan.topology.validate = .error cause) :
      CauseFrom plan point event cause
  | failed {cause : ClientError} {call : Call} (pending : point.call? plan = some call)
      (returned : event = .replied (.error cause)) : CauseFrom plan point event cause
  | late : CauseFrom plan point event .channelTimeout

/-- What a reaction makes of a failure. -/
inductive Copes (plan : Plan) (now : Nat) (cells : SupervisorCells) (point : Point)
    (event : Event) (reaction : Reaction) : Prop where
  | stays (unmoved : point.setback? event = none) (next : reaction.next = .await point)
  | goesOn (unmoved : point.setback? event = none) (plain : reaction.next.point.IsPlain)
  | discards {connection channel deadline : Nat} {cause : ClientError}
      (unmoved : point.setback? event = none) (origin : CauseFrom plan point event cause)
      (next : reaction.next = .proceed (.setup connection (.discard channel cause) deadline))
  | dialFails {error : ClientError} (setback : point.setback? event = some error)
      (same : reaction = dialFailed plan now error cells)
  | setupFails {connection : Nat} {error : ClientError}
      (setback : point.setback? event = some error)
      (same : reaction = setupFailed plan now connection error cells)

section

variable {plan : Plan} {signals : Signals} {now : Nat} {cells : SupervisorCells} {point : Point}
  {event : Event}

private theorem finish_isPlain (channel? connection? : Option Nat) :
    (finish plan now channel? connection? cells).next.point.IsPlain := by
  cases channel? with
  | some channel => exact ⟨rfl, rfl⟩
  | none => cases connection? <;> exact ⟨rfl, rfl⟩

private theorem dial_isPlain : (dial plan now cells).next.point.IsPlain := by
  unfold dial
  split
  · exact finish_isPlain none none
  · exact ⟨rfl, rfl⟩

private theorem setUp_isPlain (connection : Nat) :
    (setUp plan signals now connection cells).next.point.IsPlain := by
  unfold setUp
  dsimp only
  split
  · exact ⟨rfl, rfl⟩
  · exact ⟨rfl, rfl⟩

private theorem arrive_isPlain (goal : Goal) :
    (arrive plan signals now goal cells).next.point.IsPlain := by
  cases goal with
  | dial => exact dial_isPlain
  | setup connection => exact setUp_isPlain connection
  | finish => exact ⟨rfl, rfl⟩

private theorem installed_isPlain (connection channel : Nat) :
    (installed plan now connection channel cells).next.point.IsPlain := by
  unfold installed
  split
  · exact ⟨rfl, rfl⟩
  · exact ⟨rfl, rfl⟩

private theorem leaveReady_isPlain (session : Session) :
    (leaveReady plan now session event cells).next.point.IsPlain := by
  cases event with
  | shutdown => exact finish_isPlain _ _
  | reconnect =>
      unfold leaveReady
      dsimp only
      split
      · exact ⟨rfl, rfl⟩
      · exact ⟨rfl, rfl⟩
  | begin | connectionClosed | channelClosed | replied | expired => exact ⟨rfl, rfl⟩

private theorem continueInstall_copes {connection channel deadline : Nat}
    {progress : Topology.InstallProgress} {notices : List Notice}
    (unmoved : point.setback? event = none)
    (origin : ∀ error, progress = .finished (.error error) → CauseFrom plan point event error) :
    Copes plan now cells point event
      (continueInstall plan now connection channel deadline progress cells notices) := by
  match progress with
  | .calling step => exact .goesOn unmoved ⟨rfl, rfl⟩
  | .finished (.ok ()) => exact .goesOn unmoved (installed_isPlain connection channel)
  | .finished (.error error) => exact .discards unmoved (origin error rfl) rfl

private theorem setupReplied_copes {connection deadline : Nat} {stage : Stage} {reply : Reply}
    (preparing : point = .setup connection stage deadline) (returned : event = .replied reply) :
    Copes plan now cells point event
      (setupReplied plan now connection stage deadline reply cells) := by
  subst preparing returned
  cases stage with
  | openChannel =>
      cases reply with
      | ok answer =>
          refine continueInstall_copes rfl ?_
          intro error refused
          exact .refused (Topology.invalid_of_beginInstall refused)
      | error error => exact .setupFails rfl rfl
  | install channel step =>
      refine continueInstall_copes rfl ?_
      intro error refused
      cases reply with
      | ok answer => exact absurd refused (plan.topology.afterInstallStep_ne_error answer step error)
      | error cause =>
          cases refused
          exact .failed rfl rfl
  | confirmSelect channel =>
      cases reply with
      | ok answer => exact .goesOn rfl ⟨rfl, rfl⟩
      | error error => exact .discards rfl (.failed rfl rfl) rfl
  | discard channel cause => exact .setupFails rfl rfl

private theorem setupExpired_copes {connection deadline : Nat} {stage : Stage}
    (preparing : point = .setup connection stage deadline) (finished : event = .expired) :
    Copes plan now cells point event (setupExpired plan now connection stage cells) := by
  subst preparing finished
  cases stage with
  | openChannel | discard => exact .setupFails rfl rfl
  | install | confirmSelect => exact .discards rfl .late rfl

theorem react_copes :
    Copes plan now cells point event (react plan signals now cells point event) := by
  cases point with
  | entry =>
      cases event with
      | begin => exact .goesOn rfl dial_isPlain
      | _ => exact .stays rfl rfl
  | releaseChannel channel connection? goal deadline =>
      cases event with
      | replied | expired =>
          cases connection? with
          | some connection => exact .goesOn rfl ⟨rfl, rfl⟩
          | none => exact .goesOn rfl (arrive_isPlain goal)
      | _ => exact .stays rfl rfl
  | releaseConnection connection goal deadline =>
      cases event with
      | replied | expired => exact .goesOn rfl (arrive_isPlain goal)
      | _ => exact .stays rfl rfl
  | dial deadline =>
      cases event with
      | shutdown => exact .goesOn rfl ⟨rfl, rfl⟩
      | replied reply =>
          cases reply with
          | ok answer => exact .goesOn rfl (setUp_isPlain answer.id)
          | error error => exact .dialFails rfl rfl
      | expired => exact .dialFails rfl rfl
      | _ => exact .stays rfl rfl
  | dialPause deadline =>
      cases event with
      | shutdown => exact .goesOn rfl ⟨rfl, rfl⟩
      | expired => exact .goesOn rfl dial_isPlain
      | _ => exact .stays rfl rfl
  | setup connection stage deadline =>
      cases event with
      | shutdown => exact .goesOn (by cases stage <;> rfl) (finish_isPlain none (some connection))
      | connectionClosed reason => exact .goesOn (by cases stage <;> rfl) ⟨rfl, rfl⟩
      | replied reply => exact setupReplied_copes rfl rfl
      | expired => exact setupExpired_copes rfl rfl
      | begin | channelClosed | reconnect => exact .stays (by cases stage <;> rfl) rfl
  | setupPause connection deadline =>
      cases event with
      | shutdown => exact .goesOn rfl (finish_isPlain none (some connection))
      | expired => exact .goesOn rfl (setUp_isPlain connection)
      | _ => exact .stays rfl rfl
  | ready session => exact .goesOn rfl (leaveReady_isPlain session)
  | closed => exact .stays rfl rfl

end

/-! ## Over a link -/

/-- A reply that an event tells was brought by a link. -/
def Point.Carries (plan : Plan) (point : Point) (event : Event) : Prop :=
  ∀ reply call, event = .replied reply → point.call? plan = some call → Wire.Brings call reply

namespace Run

/-- Every reply so far was brought by a link. -/
def IsCarried (run : Run) : Prop :=
  ∀ call reply, .returned call reply ∈ run.marks → Wire.Brings call reply

/-- If a channel is being discarded, it is for a transient error. -/
def IsSound (run : Run) : Prop :=
  ∀ cause, run.point.cause? = some cause → cause.isTransient = true

end Run

section

variable {plan : Plan} {point : Point} {event : Event} {run after : Run}

private theorem Point.carries_of_isEnd (unended : event.isEnd = false) :
    point.Carries plan event := by
  rintro reply call rfl
  cases unended

theorem CauseFrom.isTransient {cause : ClientError} (origin : CauseFrom plan point event cause)
    (valid : plan.topology.validate = .ok ()) (carries : point.Carries plan event) :
    cause.isTransient = true := by
  cases origin with
  | refused invalid => cases valid.symm.trans invalid
  | failed pending returned => exact (carries _ _ returned pending).isTransient
  | late => rfl

theorem Run.IsSound.react (sound : run.IsSound) (valid : plan.topology.validate = .ok ())
    (carries : run.point.Carries plan event) : (run.react plan event).IsSound := by
  intro cause given
  rw [Run.react, point_moveTo] at given
  have copes : Copes plan run.now run.cells run.point event
      (Supervisor.react plan run.signals run.now run.cells run.point event) := react_copes
  generalize Supervisor.react plan run.signals run.now run.cells run.point event = reaction
    at copes given
  cases copes with
  | stays unmoved next =>
      rw [next] at given
      exact sound cause given
  | goesOn unmoved plain => cases plain.uncaused.symm.trans given
  | discards unmoved origin next =>
      rw [next] at given
      cases given
      exact origin.isTransient valid carries
  | dialFails setback same | setupFails setback same =>
      rw [same] at given
      cases given

theorem Run.IsSound.congr (sound : run.IsSound) (same : after.point = run.point) :
    after.IsSound := by
  intro cause given
  exact sound cause (same ▸ given)

private theorem Run.returned_mem_receive {call : Call} {reply : Reply}
    (calling : run.isCalling = true)
    (pending : run.point.call? plan = some call) :
    .returned call reply ∈ (run.receive plan reply).marks := by
  have told := run.history_react_endCall plan (.returned · reply) (.replied reply)
  have ended : run.endEntries plan (.returned · reply) =
      [{ time := run.now, mark := .returned call reply }] := by
    simp [endEntries, calling, pending]
  rw [Run.marks, Run.receive, told, ended]
  simp

theorem Step.isSound (step : Step plan run after) (valid : plan.topology.validate = .ok ())
    (carried : after.IsCarried) (sound : run.IsSound) : after.IsSound := by
  cases step with
  | pass | signal | start | raise | name | wake | poll | overlook => exact sound
  | take ending => exact sound.congr (by simp)
  | call idle overlooked => exact sound.congr (by simp)
  | look started looks found =>
      have sound := sound.congr (run.point_endCall plan .abandoned)
      refine sound.react valid (Point.carries_of_isEnd ?_)
      exact isEnd_of_interrupt? found
  | @reply call reply calling overlooked pending answers =>
      have sound := sound.congr (run.point_endCall plan (.returned · reply))
      refine sound.react valid ?_
      rintro _ other ⟨⟩ same
      rw [Run.point_endCall] at same
      cases pending.symm.trans same
      exact carried _ _ (Run.returned_mem_receive calling pending)
  | expire waits overlooked limit due =>
      have sound := sound.congr (run.point_endCall plan .cutOff)
      exact sound.react valid (fun reply call told => by cases told)

private theorem isSound_of_reachable (valid : plan.topology.validate = .ok ())
    (reached : Reachable plan run) (carried : run.IsCarried) : run.IsSound := by
  induction reached with
  | refl => exact nofun
  | @tail former run reached step ih =>
      have kept : former.marks <+: run.marks :=
        (Steps.history_prefix (.single step)).map Entry.mark
      exact step.isSound valid carried (ih fun call reply told => carried call reply (kept.subset told))

theorem isTransient_of_setback? {error : ClientError}
    (caused : ∀ cause, point.cause? = some cause → cause.isTransient = true)
    (carries : point.Carries plan event) (setback : point.setback? event = some error) :
    error.isTransient = true := by
  cases point with
  | dial deadline =>
      cases event with
      | replied reply =>
          cases reply with
          | ok answer => cases setback
          | error error =>
              cases setback
              exact (carries _ _ rfl rfl).isTransient
      | expired =>
          cases setback
          rfl
      | _ => cases setback
  | setup connection stage deadline =>
      cases stage with
      | openChannel =>
          cases event with
          | replied reply =>
              cases reply with
              | ok answer => cases setback
              | error error =>
                  cases setback
                  exact (carries _ _ rfl rfl).isTransient
          | expired =>
              cases setback
              rfl
          | _ => cases setback
      | discard channel cause =>
          cases event with
          | replied | expired =>
              cases setback
              exact caused _ rfl
          | _ => cases setback
      | install | confirmSelect => cases event <;> cases setback
  | _ => cases setback

end

/-- The error of a call is not lost, unless the call was to close something. -/
theorem setback?_or_cause?_of_error {plan : Plan} (signals : Signals) (now : Nat)
    (cells : SupervisorCells) {point : Point} {call : Call} {error : ClientError}
    (pending : point.call? plan = some call) (opens : call.closes = false) :
    point.setback? (.replied (.error error)) = some error ∨
      (react plan signals now cells point (.replied (.error error))).next.point.cause? =
        some error := by
  cases point with
  | dial deadline => exact .inl rfl
  | setup connection stage deadline =>
      cases stage with
      | openChannel => exact .inl rfl
      | install | confirmSelect => exact .inr rfl
      | discard channel cause =>
          cases pending
          cases opens
  | releaseChannel | releaseConnection =>
      cases pending
      cases opens
  | entry | dialPause | setupPause | ready | closed => cases pending

/-- What the loop tries again for. -/
structure RetriesTransient (plan : Plan) : Prop where
  /-- A pause goes on as it was, or begins on account of an error, which is reported. -/
  pauses : ∀ signals now cells point event,
    let reaction := react plan signals now cells point event
    reaction.next.point.isPause = true →
      reaction.next = .await point ∨
        ∃ error, point.setback? event = some error ∧
          error.message ∈ reaction.notices.filterMap (·.error)
  /-- The error of a call leads to a pause at once, or once its channel is discarded. -/
  heeds : ∀ signals now cells (point : Point) (call : Call) error,
    point.call? plan = some call → call.closes = false →
      point.setback? (.replied (.error error)) = some error ∨
        (react plan signals now cells point (.replied (.error error))).next.point.cause? =
          some error
  /-- Over a link, no such error is fatal. -/
  transient : ∀ run event error, Reachable plan run → run.IsCarried →
    run.point.Carries plan event → run.point.setback? event = some error →
      error.isTransient = true ∧ error.isFatal = false
  /-- Nor is any for which a channel is discarded, so that another one is tried. -/
  discards : ∀ run cause, Reachable plan run → run.IsCarried → run.point.cause? = some cause →
    cause.isTransient = true ∧ cause.isFatal = false

theorem retriesTransient {plan : Plan} (valid : plan.topology.validate = .ok ()) :
    RetriesTransient plan where
  pauses := by
    intro signals now cells point event reaction paused
    have copes : Copes plan now cells point event reaction := react_copes
    cases copes with
    | stays unmoved next => exact .inl next
    | goesOn unmoved plain => cases plain.unpaused.symm.trans paused
    | discards unmoved origin next =>
        rw [next] at paused
        cases paused
    | dialFails setback same | setupFails setback same =>
        refine .inr ⟨_, setback, ?_⟩
        rw [same]
        exact List.mem_singleton_self _
  heeds := by
    intro signals now cells point call error pending opens
    exact setback?_or_cause?_of_error signals now cells pending opens
  transient := by
    intro run event error reached carried carries setback
    have sound := isSound_of_reachable valid reached carried
    have transient := isTransient_of_setback? sound carries setback
    exact ⟨transient, ClientError.not_isFatal_of_isTransient transient⟩
  discards := by
    intro run cause reached carried given
    have transient := isSound_of_reachable valid reached carried cause given
    exact ⟨transient, ClientError.not_isFatal_of_isTransient transient⟩

end AmqpClient.Supervisor
