import AmqpClient.Proofs.Supervisor.Unwinding
import Mathlib.Data.List.Chain

/-!
# The order of the states

A supervisor comes from one state to another only in the ways of its lifecycle, and
never leaves the last one. The states that were left are kept, so their order can be
read off the cells. A session is there only in the state that is called ready, and
connections are dialed and channels set up each in a state of their own.
-/

set_option autoImplicit false

namespace AmqpClient

/-! ## The lifecycle -/

namespace SupervisorState

/-- The supervisor has not begun to end. -/
def IsUp (state : SupervisorState) : Prop :=
  state ≠ .closing ∧ state ≠ .closed

/-- The states that may follow a state. -/
inductive Leads : SupervisorState → SupervisorState → Prop where
  | started : Leads .disconnected .connecting
  | dialed : Leads .connecting .initializing
  | prepared : Leads .initializing .ready
  | connectionLost : Leads .initializing .connecting
  | channelLost : Leads .ready .initializing
  | sessionLost : Leads .ready .connecting
  | stopping {state : SupervisorState} (up : state.IsUp) : Leads state .closing
  | stopped : Leads .closing .closed

private theorem not_leads_of_closed (state : SupervisorState) : ¬ Leads .closed state := by
  intro leads
  cases leads with
  | stopping up => exact up.2 rfl

end SupervisorState

namespace SupervisorCells

/-- The states that the supervisor has come through, the present one last. -/
def trail (cells : SupervisorCells) : List SupervisorState :=
  cells.passed.reverse ++ [cells.state]

/-- What was a path through the lifecycle goes on as one. -/
structure Continues (before after : SupervisorCells) : Prop where
  kept : before.trail <+: after.trail
  path : before.trail.IsChain SupervisorState.Leads → after.trail.IsChain SupervisorState.Leads

section

variable {cells before middle after : SupervisorCells}

namespace Continues

theorem of_eq (state : after.state = before.state) (passed : after.passed = before.passed) :
    before.Continues after := by
  have same : after.trail = before.trail := by rw [trail, trail, state, passed]
  exact ⟨same ▸ List.prefix_rfl, fun path => same ▸ path⟩

theorem refl (cells : SupervisorCells) : cells.Continues cells :=
  .of_eq rfl rfl

theorem trans (early : before.Continues middle) (late : middle.Continues after) :
    before.Continues after :=
  ⟨early.kept.trans late.kept, fun path => late.path (early.path path)⟩

end Continues

private theorem trail_setState (state : SupervisorState) (cells : SupervisorCells) :
    (cells.setState state).trail =
      cells.trail ++ if cells.state = state then [] else [state] := by
  unfold trail setState
  split
  · next same => simp [same]
  · simp

private theorem continues_setState {state : SupervisorState}
    (leads : cells.state = state ∨ cells.state.Leads state) :
    cells.Continues (cells.setState state) := by
  have added := trail_setState state cells
  refine ⟨added ▸ List.prefix_append _ _, fun path => ?_⟩
  rw [added]
  split
  · simpa using path
  · next changed =>
    refine path.append (.singleton _) ?_
    have next := leads.resolve_left changed
    simpa [trail] using next

/-- Nothing follows the last state. -/
theorem Continues.trail_eq_of_closed (continues : before.Continues after)
    (path : before.trail.IsChain SupervisorState.Leads) (closed : before.state = .closed) :
    after.trail = before.trail := by
  obtain ⟨more, told⟩ := continues.kept
  have goesOn := continues.path path
  rw [← told] at goesOn ⊢
  cases more with
  | nil => exact List.append_nil _
  | cons next rest =>
      obtain ⟨-, -, meets⟩ := List.isChain_append.mp goesOn
      have leads : SupervisorState.Leads before.state next := meets _ (by simp [trail]) _ rfl
      rw [closed] at leads
      exact absurd leads (SupervisorState.not_leads_of_closed next)

private theorem continues_setSession (session : Option Session) (cells : SupervisorCells) :
    cells.Continues (cells.setSession session) :=
  .of_eq rfl rfl

end

end SupervisorCells

namespace Supervisor

/-! ## Reactions -/

/-- A reaction goes on along the lifecycle, and no reaction leads back to the entry. -/
structure Advances (cells : SupervisorCells) (reaction : Reaction) : Prop where
  states : cells.Continues reaction.cells
  away : reaction.next.point ≠ .entry

section

variable {plan : Plan} {signals : Signals} {now : Nat} {cells : SupervisorCells}

private theorem Advances.of_keep {reaction : Reaction} (same : reaction.cells = cells)
    (away : reaction.next.point ≠ .entry) : Advances cells reaction :=
  ⟨same ▸ .refl cells, away⟩

private theorem conclude_advances (closing : cells.state = .closing) :
    Advances cells (conclude cells) := by
  refine ⟨SupervisorCells.continues_setState (.inr ?_), nofun⟩
  rw [closing]
  exact .stopped

private theorem finish_advances (plan : Plan) (now : Nat) (channel? connection? : Option Nat)
    (up : cells.state.IsUp) :
    Advances cells (finish plan now channel? connection? cells) := by
  have stops : cells.Continues ((cells.setState .closing).setSession none) :=
    (SupervisorCells.continues_setState (.inr (.stopping up))).trans
      (SupervisorCells.continues_setSession none _)
  cases channel? with
  | some channel => exact ⟨stops, nofun⟩
  | none =>
      cases connection? with
      | some connection => exact ⟨stops, nofun⟩
      | none =>
          have closing : ((cells.setState .closing).setSession none).state = .closing := rfl
          obtain ⟨closes, away⟩ := conclude_advances closing
          exact ⟨stops.trans closes, away⟩

private theorem dial_advances (up : cells.state.IsUp) : Advances cells (dial plan now cells) := by
  unfold dial
  split
  · exact finish_advances plan now none none up
  · refine ⟨SupervisorCells.continues_setState ?_, nofun⟩
    cases held : cells.state with
    | disconnected => exact .inr .started
    | connecting => exact .inl rfl
    | initializing => exact .inr .connectionLost
    | ready => exact .inr .sessionLost
    | closing => exact absurd held up.1
    | closed => exact absurd held up.2

private theorem setUp_advances (connection : Nat)
    (held : cells.state = .connecting ∨ cells.state = .ready ∨ cells.state = .initializing) :
    Advances cells (setUp plan signals now connection cells) := by
  have turns : cells.Continues (cells.setState .initializing) := by
    refine SupervisorCells.continues_setState ?_
    rcases held with held | held | held <;> rw [held]
    · exact .inr .dialed
    · exact .inr .channelLost
    · exact .inl rfl
  unfold setUp
  dsimp only
  split
  · exact ⟨turns, nofun⟩
  · exact ⟨turns, nofun⟩

private theorem Goal.FitsState.isUp {goal : Goal} {state : SupervisorState}
    (fits : goal.FitsState state)
    (goesOn : goal ≠ .finish) : state.IsUp := by
  cases goal with
  | dial | setup connection => rcases fits with rfl | rfl <;> exact ⟨nofun, nofun⟩
  | finish => exact absurd rfl goesOn

private theorem arrive_advances (goal : Goal) (fits : goal.FitsState cells.state) :
    Advances cells (arrive plan signals now goal cells) := by
  cases goal with
  | dial => exact dial_advances (fits.isUp nofun)
  | setup connection => exact setUp_advances connection (.inr fits)
  | finish => exact conclude_advances fits

private theorem publishSession_advances (connection channel : Nat)
    (setUp : cells.state = .initializing) :
    Advances cells (publishSession connection channel cells) := by
  let session : Session := { generation := cells.generations + 1, connection, channel }
  let stored : SupervisorCells :=
    { cells with generations := session.generation }.setSession (some session)
  have ready : stored.Continues (stored.setState .ready) := by
    refine SupervisorCells.continues_setState (.inr ?_)
    exact setUp ▸ .prepared
  have stores : cells.Continues stored := .of_eq rfl rfl
  exact ⟨stores.trans ready, nofun⟩

private theorem installed_advances (connection channel : Nat)
    (setUp : cells.state = .initializing) :
    Advances cells (installed plan now connection channel cells) := by
  unfold installed
  split
  · exact .of_keep rfl nofun
  · exact publishSession_advances connection channel setUp

private theorem continueInstall_advances (connection channel deadline : Nat)
    (progress : Topology.InstallProgress) (notices : List Notice)
    (setUp : cells.state = .initializing) :
    Advances cells
      (continueInstall plan now connection channel deadline progress cells notices) := by
  match progress with
  | .calling step => exact .of_keep rfl nofun
  | .finished (.ok ()) => exact installed_advances connection channel setUp
  | .finished (.error error) => exact .of_keep rfl nofun

private theorem setupReplied_advances (connection : Nat) (stage : Stage) (deadline : Nat)
    (reply : Reply)
    (setUp : cells.state = .initializing) :
    Advances cells (setupReplied plan now connection stage deadline reply cells) := by
  cases stage with
  | openChannel =>
      cases reply with
      | ok answer => exact continueInstall_advances connection _ _ _ _ setUp
      | error error => exact .of_keep rfl nofun
  | install channel step => exact continueInstall_advances connection channel deadline _ _ setUp
  | confirmSelect channel =>
      cases reply with
      | ok answer => exact publishSession_advances connection channel setUp
      | error error => exact .of_keep rfl nofun
  | discard channel cause => exact .of_keep rfl nofun

private theorem setupExpired_advances (connection : Nat) (stage : Stage) :
    Advances cells (setupExpired plan now connection stage cells) := by
  cases stage <;> exact .of_keep rfl nofun

private theorem leaveReady_advances (session : Session) (event : Event)
    (ready : cells.state = .ready) :
    Advances cells (leaveReady plan now session event cells) := by
  have withdraws : cells.Continues (cells.setSession none) :=
    SupervisorCells.continues_setSession none cells
  cases event with
  | shutdown =>
      have up : (cells.setSession none).state.IsUp := ready ▸ ⟨nofun, nofun⟩
      obtain ⟨finishes, away⟩ := finish_advances plan now (some session.channel)
        (some session.connection) up
      exact ⟨withdraws.trans finishes, away⟩
  | connectionClosed reason | channelClosed reason => exact ⟨withdraws, nofun⟩
  | reconnect =>
      unfold leaveReady
      dsimp only
      split
      · exact ⟨.of_eq rfl rfl, nofun⟩
      · exact ⟨.of_eq rfl rfl, nofun⟩
  | begin | replied _ | expired => exact .of_keep rfl nofun

/-- A loop that is asleep at its entry is woken by its start alone. -/
theorem react_advances {point : Point} (event : Event) (fits : point.FitsState cells.state)
    (fresh : point = .entry → event = .begin ∧ cells.state = .disconnected) :
    Advances cells (react plan signals now cells point event) := by
  have up {state : SupervisorState} (held : cells.state = state) (isUp : state.IsUp) :
      cells.state.IsUp := held ▸ isUp
  cases point with
  | entry =>
      obtain ⟨rfl, disconnected⟩ := fresh rfl
      exact dial_advances (up disconnected ⟨nofun, nofun⟩)
  | releaseChannel channel connection? goal deadline =>
      cases event with
      | replied _ | expired =>
          cases connection? with
          | some connection => exact .of_keep rfl nofun
          | none => exact arrive_advances goal fits
      | _ => exact .of_keep rfl nofun
  | releaseConnection connection goal deadline =>
      cases event with
      | replied _ | expired => exact arrive_advances goal fits
      | _ => exact .of_keep rfl nofun
  | dial deadline =>
      cases event with
      | shutdown => exact finish_advances plan now none none (up fits ⟨nofun, nofun⟩)
      | replied reply =>
          cases reply with
          | ok answer => exact setUp_advances answer.id (.inl fits)
          | error error => exact .of_keep rfl nofun
      | _ => exact .of_keep rfl nofun
  | dialPause deadline =>
      cases event with
      | shutdown => exact finish_advances plan now none none (up fits ⟨nofun, nofun⟩)
      | expired => exact dial_advances (up fits ⟨nofun, nofun⟩)
      | _ => exact .of_keep rfl nofun
  | setup connection stage deadline =>
      cases event with
      | shutdown => exact finish_advances plan now none (some connection) (up fits ⟨nofun, nofun⟩)
      | replied reply => exact setupReplied_advances connection stage deadline reply fits
      | expired => exact setupExpired_advances connection stage
      | _ => exact .of_keep rfl nofun
  | setupPause connection deadline =>
      cases event with
      | shutdown => exact finish_advances plan now none (some connection) (up fits ⟨nofun, nofun⟩)
      | expired => exact setUp_advances connection (.inr (.inr fits))
      | _ => exact .of_keep rfl nofun
  | ready session => exact leaveReady_advances session event fits
  | closed => exact .of_keep rfl nofun

end

/-! ## Runs -/

/-- The call is made on the way from one run to the other. -/
def Run.Makes (run after : Run) (call : Call) : Prop :=
  ∃ more, after.history = run.history ++ more ∧ call ∈ issuedCalls more

section

variable {plan : Plan} {run after : Run} {call : Call} {event : Event} {ending : Call → Mark}

namespace Run

theorem not_makes_of_eq (history : after.history = run.history) : ¬ run.Makes after call := by
  rintro ⟨more, told, called⟩
  have nothing : more = [] := by simpa [history] using told
  simp [nothing, issuedCalls] at called

theorem makes_makeCall (makes : run.Makes (run.makeCall plan) call) :
    run.point.call? plan = some call := by
  obtain ⟨more, told, called⟩ := makes
  rw [history_makeCall] at told
  rw [← List.append_cancel_left told] at called
  cases pending : run.point.call? plan with
  | none => simp [pending, issuedCalls] at called
  | some made => simpa [pending, issuedCalls, Mark.issued?, eq_comm] using called

/-- A reaction makes no call but the one that it issues. -/
theorem issued_of_makes_react (ends : ∀ call, (ending call).issued? = none)
    (makes : run.Makes ((run.endCall plan ending).react plan event) call) :
    call ∈ (Supervisor.react plan run.signals run.now run.cells run.point event).next.issues
      plan := by
  obtain ⟨more, told, called⟩ := makes
  rw [history_react_endCall] at told
  rwa [← List.append_cancel_left told, issuedCalls_append, issuedCalls_endEntries ends,
    List.nil_append, issuedCalls_entries] at called

end Run

private theorem Next.call?_of_issued {next : Next} (issued : call ∈ next.issues plan) :
    next.point.call? plan = some call := by
  cases next with
  | await point => cases issued
  | proceed point => simpa [Next.issues, Next.point] using issued

/-- Whatever is called is the call of the point that the loop has come to. -/
theorem Step.call?_of_makes (step : Step plan run after) (makes : run.Makes after call) :
    after.point.call? plan = some call := by
  have reacts {ending : Call → Mark} {event : Event} (ends : ∀ call, (ending call).issued? = none)
      (makes : run.Makes ((run.endCall plan ending).react plan event) call) :
      ((run.endCall plan ending).react plan event).point.call? plan = some call := by
    rw [Run.endCall_react_eq]
    exact Next.call?_of_issued (Run.issued_of_makes_react ends makes)
  cases step with
  | pass | signal | start | raise | name | wake | poll | overlook =>
      exact absurd makes (Run.not_makes_of_eq rfl)
  | take ending =>
      obtain ⟨more, told, called⟩ := makes
      have written : run.history ++ more = (run.setCells run.cells.takeHandle).history := told.symm
      rw [Run.history_setCells] at written
      rw [List.append_cancel_left written] at called
      split at called <;> simp [issuedCalls, Mark.issued?] at called
  | call idle overlooked =>
      rw [Run.point_makeCall]
      exact Run.makes_makeCall makes
  | look | reply | expire => exact reacts (fun _ => rfl) makes

namespace Run

/-- A supervisor whose loop has not begun is in its first state, unless it was shut down
without a loop. -/
def IsFresh (run : Run) : Prop :=
  run.point = .entry → run.cells.state = .disconnected ∨
    run.cells.handle = .absent ∧ run.cells.isShutDown = true ∧ run.isEnding = false

namespace IsFresh

theorem congr (fresh : run.IsFresh) (point : after.point = run.point)
    (cells : after.cells = run.cells) (isEnding : after.isEnding = run.isEnding) :
    after.IsFresh := by
  unfold IsFresh
  rw [point, cells, isEnding]
  exact fresh

theorem disconnected (fresh : run.IsFresh) (atEntry : run.point = .entry)
    (alive : run.cells.handle ≠ .absent ∨ run.isEnding = true ∨ run.cells.isShutDown = false) :
    run.cells.state = .disconnected := by
  rcases fresh atEntry with disconnected | ⟨absent, isShutDown, settled⟩
  · exact disconnected
  · rcases alive with started | ending | up
    · exact absurd absent started
    · exact absurd (settled.symm.trans ending) Bool.false_ne_true
    · exact absurd (up.symm.trans isShutDown) Bool.false_ne_true

theorem react (fresh : run.IsFresh) (staged : run.IsStaged)
    (entered : run.point = .entry → event = .begin ∧ run.cells.handle ≠ .absent) :
    run.cells.Continues ((run.endCall plan ending).react plan event).cells ∧
      ((run.endCall plan ending).react plan event).IsFresh := by
  have begins (atEntry : run.point = .entry) :
      event = .begin ∧ run.cells.state = .disconnected := by
    obtain ⟨begin, started⟩ := entered atEntry
    exact ⟨begin, fresh.disconnected atEntry (.inl started)⟩
  have advances : Advances run.cells
      (Supervisor.react plan run.signals run.now run.cells run.point event) :=
    react_advances event staged.fits begins
  rw [endCall_react_eq]
  exact ⟨advances.states, fun atEntry => absurd atEntry advances.away⟩

theorem take (fresh : run.IsFresh) (coherent : run.IsCoherent) (ending : run.isEnding = true) :
    run.cells.Continues run.cells.takeHandle ∧
      ({ run.setCells run.cells.takeHandle with isEnding := false } : Run).IsFresh := by
  cases handle : run.cells.handle with
  | present =>
      rw [SupervisorCells.takeHandle_of_present handle]
      refine ⟨.of_eq rfl rfl, fun atEntry => .inl ?_⟩
      have disconnected := fresh.disconnected (by simpa using atEntry) (.inr (.inl ending))
      simpa using disconnected
  | absent =>
      have disconnected := fresh.disconnected (coherent.unstarted handle) (.inr (.inl ending))
      constructor
      · have closing : ((run.cells.setState .closing).setSession none).state = .closing := rfl
        have closes : run.cells.Continues (run.cells.setState .closing) :=
          SupervisorCells.continues_setState (.inr (.stopping (disconnected ▸ ⟨nofun, nofun⟩)))
        have closed := (conclude_advances closing).states
        have taken : run.cells.takeHandle =
            ((run.cells.setState .closing).setSession none).setState .closed := by
          simp [SupervisorCells.takeHandle, handle]
        rw [taken]
        exact (closes.trans (SupervisorCells.continues_setSession none _)).trans closed
      · rw [SupervisorCells.takeHandle_of_absent handle]
        exact fun _ => .inr ⟨by simpa using handle, by simpa using (coherent.ending ending).1, rfl⟩
  | taken => exact absurd handle (coherent.ending ending).2

/-- One step goes on along the lifecycle. -/
theorem step (fresh : run.IsFresh) (coherent : run.IsCoherent) (staged : run.IsStaged)
    (step : Step plan run after) : run.cells.Continues after.cells ∧ after.IsFresh := by
  cases step with
  | pass | signal | poll | overlook => exact ⟨.refl _, fresh.congr rfl rfl rfl⟩
  | name | wake => exact ⟨.of_eq rfl rfl, fresh⟩
  | start started =>
      obtain ⟨up, rfl⟩ := SupervisorCells.eq_of_start started
      refine ⟨.of_eq rfl rfl, fun atEntry => .inl ?_⟩
      exact fresh.disconnected atEntry (.inr (.inr up))
  | raise raised =>
      obtain ⟨up, rfl⟩ := SupervisorCells.eq_of_raiseShutdown raised
      refine ⟨.of_eq rfl rfl, fun atEntry => .inl ?_⟩
      exact fresh.disconnected atEntry (.inr (.inr up))
  | take ending =>
      obtain ⟨continues, fresh⟩ := fresh.take coherent ending
      exact ⟨by simpa using continues, fresh⟩
  | call idle overlooked =>
      refine ⟨.of_eq ?_ ?_, fresh.congr ?_ ?_ ?_⟩ <;> simp
  | look started looks found =>
      refine fresh.react staged fun atEntry => ⟨?_, started⟩
      simpa [atEntry, Point.interrupt?, eq_comm] using found
  | reply calling overlooked pending answers =>
      refine fresh.react staged fun atEntry => ?_
      simp [atEntry, Point.call?] at pending
  | expire waits overlooked limit due =>
      refine fresh.react staged fun atEntry => ?_
      simp [atEntry, Point.deadline?] at limit

end IsFresh

theorem isFresh_of_reachable (reached : Reachable plan run) : run.IsFresh := by
  induction reached with
  | refl => exact fun _ => .inl rfl
  | tail before step ih =>
      exact (ih.step (isCoherent_of_reachable before) (isStaged_of_reachable before) step).2

private theorem continues_of_step (reached : Reachable plan run) (step : Step plan run after) :
    run.cells.Continues after.cells :=
  ((isFresh_of_reachable reached).step (isCoherent_of_reachable reached)
    (isStaged_of_reachable reached) step).1

private theorem continues_of_steps (reached : Reachable plan run) (taken : Steps plan run after) :
    run.cells.Continues after.cells := by
  induction taken with
  | refl => exact .refl _
  | tail before step ih => exact ih.trans (continues_of_step (reached.trans before) step)

end Run

/-! ## States, sessions and calls -/

namespace Point

variable {point : Point}

theorem exists_dial {endpoint : Endpoint}
    (pending : point.call? plan = some (.connect endpoint)) : ∃ deadline, point = .dial deadline := by
  cases point with
  | dial deadline => exact ⟨deadline, rfl⟩
  | setup connection stage deadline =>
      cases stage with
      | install channel step =>
          have about := setUp?_call plan.topology channel step
          rw [Option.some.inj pending] at about
          cases about
      | _ => cases pending
  | _ => cases pending

/-- A channel is opened and set up at no other point than that of a setup. -/
theorem isSetup_of_call (pending : point.call? plan = some call)
    (prepares : (∃ connection, call = .openChannel connection) ∨
      ∃ channel, call.setUp? = some channel) :
    ∃ connection stage deadline, point = .setup connection stage deadline := by
  cases point with
  | setup connection stage deadline => exact ⟨connection, stage, deadline, rfl⟩
  | releaseChannel | releaseConnection | dial =>
      cases pending
      rcases prepares with ⟨connection, opens⟩ | ⟨channel, about⟩
      · cases opens
      · cases about
  | _ => cases pending

end Point

namespace Run

/-- How the states of a run, its session and its calls go together. -/
structure KeepsOrder (plan : Plan) (run : Run) : Prop where
  begins : run.cells.trail.head? = some .disconnected
  path : run.cells.trail.IsChain SupervisorState.Leads
  kept : ∀ after, Step plan run after → run.cells.trail <+: after.cells.trail
  ends : run.cells.state = .closed → ∀ after, Step plan run after →
    after.cells.trail = run.cells.trail
  filled : run.cells.session ≠ none → run.cells.state = .ready
  dials : ∀ after endpoint, Step plan run after → run.Makes after (.connect endpoint) →
    after.cells.state = .connecting
  opens : ∀ after connection, Step plan run after → run.Makes after (.openChannel connection) →
    after.cells.state = .initializing ∧ after.cells.session = none
  /-- Checks, declarations and bindings, and the request for confirmations. -/
  prepares : ∀ after call channel, Step plan run after → run.Makes after call →
    call.setUp? = some channel → after.cells.state = .initializing ∧ after.cells.session = none

theorem state_of_session (reached : Reachable plan run) (filled : run.cells.session ≠ none) :
    run.cells.state = .ready := by
  obtain ⟨session, held⟩ := Option.ne_none_iff_exists'.mp filled
  have watched := ((isCoherent_of_reachable reached).current session).mpr held
  have fits := (isStaged_of_reachable reached).fits
  rwa [watched] at fits

private theorem state_of_prepares (reached : Reachable plan run) (step : Step plan run after)
    (makes : run.Makes after call)
    (prepares : (∃ connection, call = .openChannel connection) ∨
      ∃ channel, call.setUp? = some channel) :
    after.cells.state = .initializing ∧ after.cells.session = none := by
  have come : Reachable plan after := reached.tail step
  obtain ⟨connection, stage, deadline, atSetup⟩ :=
    Point.isSetup_of_call (step.call?_of_makes makes) prepares
  have fits := (isStaged_of_reachable come).fits
  rw [atSetup] at fits
  exact ⟨fits, (isCoherent_of_reachable come).session_eq_none (by simp [atSetup])⟩

theorem keepsOrder_of_reachable (reached : Reachable plan run) : run.KeepsOrder plan := by
  have continues : ({} : Run).cells.Continues run.cells := continues_of_steps .refl reached
  have path : run.cells.trail.IsChain SupervisorState.Leads := continues.path (.singleton _)
  constructor
  · obtain ⟨later, told⟩ := continues.kept
    rw [← told]
    rfl
  · exact path
  · intro after step
    exact (continues_of_step reached step).kept
  · intro closed after step
    exact (continues_of_step reached step).trail_eq_of_closed path closed
  · exact state_of_session reached
  · intro after endpoint step makes
    have come : Reachable plan after := reached.tail step
    obtain ⟨deadline, dialing⟩ := Point.exists_dial (step.call?_of_makes makes)
    have fits := (isStaged_of_reachable come).fits
    rwa [dialing] at fits
  · intro after connection step makes
    exact state_of_prepares reached step makes (.inl ⟨connection, rfl⟩)
  · intro after call channel step makes about
    exact state_of_prepares reached step makes (.inr ⟨channel, about⟩)

theorem keepsOrder_closed :
    oneQueueClosed.cells.trail = [.disconnected, .connecting, .initializing, .ready,
        .initializing, .ready, .closing, .closed] ∧
      Reachable oneQueue oneQueueClosed ∧ oneQueueClosed.KeepsOrder oneQueue :=
  ⟨rfl, reachable_oneQueueClosed, keepsOrder_of_reachable reachable_oneQueueClosed⟩

end Run

end

end Supervisor

end AmqpClient
