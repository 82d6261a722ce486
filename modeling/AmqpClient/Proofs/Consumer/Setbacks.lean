import AmqpClient.Proofs.Consumer.Diary
import AmqpClient.Proofs.Wire.Failures

/-!
# What a consumer subscribes again for

A consumer pauses before its next subscription because a call of the last one has failed,
or because its stream is over: a connection or a channel was closed, the stream ended, or
it gave an error in place of a delivery. Over a link, no error among these is fatal.
-/

set_option autoImplicit false

namespace AmqpClient.Consumer

namespace Point

/-- The error of a subscription, on account of which the consumer pauses. -/
def setback? : Point → Event → Option ClientError
  | .limiting .., .replied (.error error) => some error
  | .subscribing .., .replied (.error error) => some error
  | .limiting .., .expired => some .channelTimeout
  | .subscribing .., .expired => some .channelTimeout
  | _, _ => none

/-- A reply that an event tells was brought by a link. -/
def Carries (plan : Plan) (point : Point) (event : Event) : Prop :=
  ∀ reply call, event = .replied reply → point.call? plan = some call → Wire.Brings call reply

end Point

/-- Why a stream is left. -/
inductive ExitFrom (point : Point) (event : Event) : StreamExit → Prop where
  | kept {generation : Nat} {exit : StreamExit} (exits : point.exit? = some (generation, exit)) :
      ExitFrom point event exit
  | shutdown : ExitFrom point event .shutdown
  | connection (reason : String) :
      ExitFrom point event (.failed ("connection closed: " ++ reason))
  | channel (reason : String) : ExitFrom point event (.failed ("channel closed: " ++ reason))
  | ended {reason : String} (told : event = .streamEnded reason) :
      ExitFrom point event (.failed reason)

/-- What a reaction makes of a failure. -/
inductive Copes (point : Point) (event : Event) (reaction : Reaction) : Prop where
  | stays (next : reaction.consumption.point = point)
  | goesOn (unpaused : reaction.consumption.point.isPause = false)
      (origin : ∀ generation exit, reaction.consumption.point.exit? = some (generation, exit) →
        ExitFrom point event exit)
  | fails {error : ClientError} (setback : point.setback? event = some error)
      (paused : reaction.consumption.point.isPause = true)
      (reported : error.message ∈ reaction.notices.filterMap (·.error))
  | leaves {generation : Nat} {reason : String}
      (exits : point.exit? = some (generation, .failed reason))
      (paused : reaction.consumption.point.isPause = true)
      (reported : reason ∈ reaction.notices.filterMap (·.reason))

private theorem Point.exit?_of_isPause {point : Point} (paused : point.isPause = true) :
    point.exit? = none := by
  cases point with
  | pausing => rfl
  | _ => cases paused

section

variable {plan : Plan} {signals : Signals} {now : Nat} {cells : SupervisorCells} {point : Point}
  {event : Event} {pool : Pool}

private theorem look_copes (waiter : SessionWaiter) :
    Copes point event (look plan signals now cells pool waiter) := by
  unfold look
  split
  · exact .goesOn rfl nofun
  · exact .goesOn rfl nofun
  · exact .goesOn rfl nofun
  · exact .goesOn rfl nofun

private theorem leave_copes {generation : Nat} {exit : StreamExit}
    (exits : point.exit? = some (generation, exit)) :
    Copes point event (leave plan now cells pool generation exit) := by
  cases exit with
  | shutdown => exact .goesOn rfl nofun
  | failed reason => exact .leaves exits rfl (List.mem_singleton_self _)

private theorem drain_copes (session : Session) {exit : StreamExit}
    (origin : ExitFrom point event exit) :
    Copes point event (drain plan now cells pool session exit) := by
  refine .goesOn rfl ?_
  rintro generation other ⟨⟩
  exact origin

theorem react_copes (consumption : Consumption) :
    Copes consumption.point event (react plan signals now cells consumption event) := by
  obtain ⟨point, pool⟩ := consumption
  cases point with
  | entry =>
      cases event with
      | begin => exact .goesOn rfl nofun
      | _ => exact .stays rfl
  | awaiting waiter =>
      cases event with
      | shutdown => exact .goesOn rfl nofun
      | woken => exact look_copes waiter
      | _ => exact .stays rfl
  | limiting session deadline | subscribing session deadline =>
      cases event with
      | shutdown => exact .goesOn rfl nofun
      | replied reply =>
          cases reply with
          | ok answer => exact .goesOn rfl nofun
          | error error => exact .fails rfl rfl (List.mem_singleton_self _)
      | expired => exact .fails rfl rfl (List.mem_singleton_self _)
      | _ => exact .stays rfl
  | streaming session =>
      cases event with
      | shutdown => exact drain_copes session .shutdown
      | connectionClosed reason => exact drain_copes session (.connection reason)
      | channelClosed reason => exact drain_copes session (.channel reason)
      | streamEnded reason => exact drain_copes session (.ended rfl)
      | _ => exact .stays rfl
  | draining generation exit deadline =>
      cases event with
      | joined => exact leave_copes rfl
      | expired =>
          refine .goesOn rfl ?_
          rintro other same ⟨⟩
          exact .kept rfl
      | _ => exact .stays rfl
  | aborting generation exit =>
      cases event with
      | joined => exact leave_copes rfl
      | _ => exact .stays rfl
  | pausing generation deadline =>
      cases event with
      | shutdown | expired => exact .goesOn rfl nofun
      | _ => exact .stays rfl
  | finished result => exact .stays rfl

private theorem exitFrom_of_react {consumption : Consumption} {generation : Nat} {exit : StreamExit}
    (exits : (react plan signals now cells consumption event).consumption.point.exit? =
      some (generation, exit)) : ExitFrom consumption.point event exit := by
  have copes : Copes consumption.point event (react plan signals now cells consumption event) :=
    react_copes consumption
  cases copes with
  | stays next =>
      rw [next] at exits
      exact .kept exits
  | goesOn unpaused origin => exact origin generation exit exits
  | fails setback paused reported | leaves left paused reported =>
      cases (Point.exit?_of_isPause paused).symm.trans exits

/-- The end of a stream is told by its pool. -/
theorem exit?_of_interrupt? {consumption : Consumption} {reason : String}
    (found : consumption.interrupt? signals cells = some (.streamEnded reason)) :
    consumption.pool.exit? = some reason := by
  obtain ⟨point, pool⟩ := consumption
  unfold Consumption.interrupt? at found
  cases point with
  | streaming session =>
      simp only at found
      split at found
      · cases found
      · rcases Option.or_eq_some_iff.mp found with closed | ⟨-, rest⟩
        · obtain ⟨_, -, told⟩ := Option.map_eq_some_iff.mp closed
          cases told
        · rcases Option.or_eq_some_iff.mp rest with closed | ⟨-, ended⟩
          · obtain ⟨_, -, told⟩ := Option.map_eq_some_iff.mp closed
            cases told
          · obtain ⟨_, exits, told⟩ := Option.map_eq_some_iff.mp ended
            cases told
            exact exits
  | entry | finished => cases found
  | awaiting waiter =>
      simp only at found
      split at found
      · cases found
      · split at found <;> cases found
  | limiting | subscribing | pausing | aborting =>
      obtain ⟨-, told⟩ := Option.ite_none_right_eq_some.mp found
      cases told
  | draining =>
      simp only at found
      split at found
      · cases found
      · obtain ⟨-, told⟩ := Option.ite_none_right_eq_some.mp found
        cases told

theorem isTransient_of_setback? {error : ClientError} (carries : point.Carries plan event)
    (setback : point.setback? event = some error) : error.isTransient = true := by
  cases point with
  | limiting | subscribing =>
      cases event with
      | replied reply =>
          cases reply with
          | ok answer => cases setback
          | error error =>
              cases setback
              exact (carries _ _ rfl rfl).isTransient
      | expired =>
          cases setback
          rfl
      | _ => cases setback
  | _ => cases event <;> cases setback

end

/-! ## The end of a stream -/

namespace Shift

/-- What a stream has given for the reason of its end. -/
inductive Gives (shift : Shift) : String → Prop where
  | ended : Gives shift "delivery stream ended"
  | failed {worker : Nat} {error : ClientError}
      (took : .took worker (.failure error) ∈ shift.marks) : Gives shift error.message

/-- Why a stream is over. -/
inductive Blames (shift : Shift) : String → Prop where
  | connection (reason : String) : Blames shift ("connection closed: " ++ reason)
  | channel (reason : String) : Blames shift ("channel closed: " ++ reason)
  /-- All workers have ended, and none has said why. -/
  | unexplained : Blames shift CloseCell.unexplained
  | given {reason : String} (gives : shift.Gives reason) : Blames shift reason

/-- What a pool knows of the end of its stream, the stream has given. -/
def IsExplained (shift : Shift) : Prop :=
  ∀ reason, shift.pool.ended.reason = some reason → shift.Gives reason

section

variable {shift after : Shift} {index : Nat} {event : WorkerEvent} {reason : String}

theorem Gives.mono (gives : shift.Gives reason) (kept : shift.marks ⊆ after.marks) :
    after.Gives reason := by
  cases gives with
  | ended => exact .ended
  | failed took => exact .failed (kept took)

theorem Blames.mono (blames : shift.Blames reason) (kept : shift.marks ⊆ after.marks) :
    after.Blames reason := by
  cases blames with
  | connection reason => exact .connection reason
  | channel reason => exact .channel reason
  | unexplained => exact .unexplained
  | given gives => exact .given (gives.mono kept)

theorem IsExplained.mono (explained : shift.IsExplained) (kept : shift.marks ⊆ after.marks)
    (same : after.pool.ended = shift.pool.ended) : after.IsExplained := by
  intro reason told
  rw [same] at told
  exact (explained reason told).mono kept

private theorem IsExplained.blames (explained : shift.IsExplained)
    (exits : shift.pool.exit? = some reason) : shift.Blames reason := by
  rcases Option.or_eq_some_iff.mp exits with told | ⟨-, silent⟩
  · exact .given (explained reason told)
  · obtain ⟨-, same⟩ := Option.ite_none_right_eq_some.mp silent
    cases same
    exact .unexplained

/-- What an event tells a pool of the end of its stream. -/
inductive Tells : WorkerEvent → String → Prop where
  | ended : Tells (.item .ended) "delivery stream ended"
  | failed (error : ClientError) : Tells (.item (.failure error)) error.message

private theorem ended_react (pool : Pool) (index : Nat) (event : WorkerEvent) :
    (pool.react index event).pool.ended = pool.ended ∨
      ∃ reason, Tells event reason ∧
        (pool.react index event).pool.ended = pool.ended.notify reason := by
  unfold Pool.react
  generalize pool.worker index = point
  cases event with
  | item item =>
      cases point with
      | waiting =>
          cases item with
          | failure error => exact .inr ⟨_, .failed error, rfl⟩
          | ended => exact .inr ⟨_, .ended, rfl⟩
          | delivery | overrun => exact .inl rfl
      | _ => exact .inl rfl
  | handled result isSettled =>
      cases point with
      | handling delivery => cases result <;> cases isSettled <;> exact .inl rfl
      | _ => exact .inl rfl
  | settled result =>
      cases point with
      | returning delivery => cases result <;> exact .inl rfl
      | _ => exact .inl rfl
  | join | stop | broke | abort => cases point <;> exact .inl rfl

private theorem marks_subset_meet : shift.marks ⊆ (shift.meet index event).marks := by
  intro mark member
  exact List.mem_append_left _ (List.mem_append_left _ member)

theorem IsExplained.meet (explained : shift.IsExplained) :
    (shift.meet index event).IsExplained := by
  have kept : shift.marks ⊆ (shift.meet index event).marks := marks_subset_meet
  rcases ended_react shift.pool index event with same | ⟨reason, tells, notified⟩
  · exact explained.mono kept same
  · intro given told
    change (shift.pool.react index event).pool.ended.reason = some given at told
    rw [notified] at told
    unfold CloseCell.notify at told
    split at told
    · exact (explained given told).mono kept
    · cases told
      cases tells with
      | ended => exact .ended
      | failed error =>
          have took : Mark.took index (.failure error) ∈
              itemMarks index (.item (.failure error)) := by
            simp [itemMarks]
          exact .failed (List.mem_append_right _ took)

/-- The record of a pool grows, and explains what the pool knows. -/
theorem Act.explains (act : shift.Act after) (explained : shift.IsExplained) :
    after.IsExplained ∧ shift.marks ⊆ after.marks := by
  cases act with
  | work work =>
      cases work with
      | look | ask | hear => exact ⟨explained.meet, marks_subset_meet⟩
      | overlook =>
          exact ⟨explained.mono (List.Subset.refl _) rfl, List.Subset.refl _⟩
      | askInVain | call =>
          have kept := List.subset_append_left shift.marks
          exact ⟨explained.mono (kept _) rfl, kept _⟩
  | poll => exact ⟨explained.mono (List.Subset.refl _) rfl, List.Subset.refl _⟩
  | abort => exact ⟨explained.meet, marks_subset_meet⟩

end

end Shift

namespace Run

/-- The record of the pool bears out why a stream was left. -/
structure IsExplained (run : Run) : Prop where
  shift : run.shift.IsExplained
  exit : ∀ generation reason, run.point.exit? = some (generation, .failed reason) →
    run.shift.Blames reason

/-- Every failure that a stream gave was brought by a link. -/
def IsCarried (run : Run) : Prop :=
  ∀ worker error, .took worker (.failure error) ∈ run.shift.marks → Wire.BringsItem (.error error)

section

variable {plan : Plan} {run after : Run} {event : Event}

private theorem isExplained_initial : ({} : Run).IsExplained where
  shift := nofun
  exit := nofun

theorem IsExplained.extend (explained : run.IsExplained) (given : after.shift.IsExplained)
    (kept : run.shift.marks ⊆ after.shift.marks) (point : after.point = run.point) :
    after.IsExplained where
  shift := given
  exit := by
    intro generation reason exits
    rw [point] at exits
    exact (explained.exit generation reason exits).mono kept

private theorem IsExplained.blames {generation : Nat} {reason : String}
    (explained : run.IsExplained)
    (occurs : Occurs plan run event)
    (exits : (react plan run.signals run.now run.cells run.consumption event).consumption.point.exit?
      = some (generation, .failed reason)) : run.shift.Blames reason := by
  cases exitFrom_of_react exits with
  | kept exits => exact explained.exit _ reason exits
  | connection reason => exact .connection reason
  | channel reason => exact .channel reason
  | ended told =>
      subst told
      cases occurs with
      | interrupt looks found => exact explained.shift.blames (exit?_of_interrupt? found)

private theorem exit?_of_opensStream {point next : Point} (opens : point.opensStream next = true) :
    next.exit? = none := by
  cases point with
  | subscribing session deadline =>
      cases next with
      | streaming => rfl
      | _ => cases opens
  | _ => cases opens

private theorem ended_of_order {pool next : Pool} (order : Shift.Order pool next) :
    next.ended = pool.ended := by
  cases order <;> rfl

theorem IsExplained.meet (explained : run.IsExplained) (occurs : Occurs plan run event) :
    (run.meet plan event).IsExplained := by
  have proceeds := occurs.proceeds
  have blames (generation : Nat) (reason : String)
      (exits : (react plan run.signals run.now run.cells run.consumption
        event).consumption.point.exit? = some (generation, .failed reason)) :
      run.shift.Blames reason := explained.blames occurs exits
  simp only [Run.meet]
  generalize react plan run.signals run.now run.cells run.consumption event = reaction
    at proceeds blames
  cases opens : run.point.opensStream reaction.consumption.point with
  | true =>
      obtain ⟨-, stream, pool⟩ := proceeds.opens opens
      rw [Run.moveTo, if_pos opens, pool]
      constructor
      · intro reason told
        cases told
      · intro generation reason exits
        cases (exit?_of_opensStream opens).symm.trans exits
  | false =>
      have ended : reaction.consumption.pool.ended = run.shift.pool.ended := by
        rcases proceeds.order opens with same | order
        · rw [same]
          rfl
        · exact ended_of_order order
      rw [Run.moveTo, if_neg (by rw [opens]; exact Bool.false_ne_true)]
      constructor
      · exact explained.shift.mono (List.Subset.refl _) ended
      · intro generation reason exits
        exact (blames generation reason exits).mono (List.Subset.refl _)

theorem IsExplained.step (explained : run.IsExplained) (step : Step plan run after) :
    after.IsExplained := by
  cases step with
  | around | poll => exact ⟨explained.shift, explained.exit⟩
  | work kept work =>
      cases work with
      | meet occurs => exact explained.meet occurs
      | overlook | call => exact ⟨explained.shift, explained.exit⟩
  | drop =>
      have kept := List.Subset.refl run.shift.marks
      exact explained.extend (explained.shift.mono kept rfl) kept rfl
  | act act =>
      obtain ⟨given, kept⟩ := act.explains explained.shift
      exact explained.extend given kept rfl
  | linger => exact ⟨explained.shift, explained.exit⟩

private theorem isExplained_of_steps (steps : Steps plan {} run) : run.IsExplained := by
  induction steps with
  | refl => exact isExplained_initial
  | tail _ step ih => exact ih.step step

end

end Run

/-! ## What is tried again -/

/-- What a consumer subscribes again for. -/
structure RetriesTransient (plan : Plan) : Prop where
  /-- A pause goes on as it was, or begins on account of an error of the subscription or of
  the end of a stream, which is reported. -/
  pauses : ∀ signals now cells (consumption : Consumption) event,
    let reaction := react plan signals now cells consumption event
    reaction.consumption.point.isPause = true →
      reaction.consumption.point = consumption.point ∨
        (∃ error, consumption.point.setback? event = some error ∧
          error.message ∈ reaction.notices.filterMap (·.error)) ∨
        ∃ generation reason, consumption.point.exit? = some (generation, .failed reason) ∧
          reason ∈ reaction.notices.filterMap (·.reason)
  /-- Over a link, no error of a subscription is fatal. -/
  transient : ∀ (point : Point) event error, point.Carries plan event →
    point.setback? event = some error → error.isTransient = true ∧ error.isFatal = false
  /-- Nor is any that a stream has given before it was left. -/
  streams : ∀ run generation reason, Steps plan {} run → run.IsCarried →
    run.point.exit? = some (generation, .failed reason) →
      run.shift.Blames reason ∧
        ∀ worker error, .took worker (.failure error) ∈ run.shift.marks →
          error.isTransient = true ∧ error.isFatal = false

theorem retriesTransient (plan : Plan) : RetriesTransient plan where
  pauses := by
    intro signals now cells consumption event reaction paused
    have copes : Copes consumption.point event reaction := react_copes consumption
    cases copes with
    | stays next => exact .inl next
    | goesOn unpaused => cases unpaused.symm.trans paused
    | fails setback _ reported => exact .inr (.inl ⟨_, setback, reported⟩)
    | leaves exits _ reported => exact .inr (.inr ⟨_, _, exits, reported⟩)
  transient := by
    intro point event error carries setback
    have transient := isTransient_of_setback? carries setback
    exact ⟨transient, ClientError.not_isFatal_of_isTransient transient⟩
  streams := by
    intro run generation reason steps carried exits
    refine ⟨(Run.isExplained_of_steps steps).exit generation reason exits, ?_⟩
    intro worker error took
    have transient := (carried worker error took).isTransient
    exact ⟨transient, ClientError.not_isFatal_of_isTransient transient⟩

end AmqpClient.Consumer
