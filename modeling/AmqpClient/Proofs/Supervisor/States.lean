import AmqpClient.Proofs.Supervisor.Session

/-!
# The states of a supervisor

The state tells where the loop is. A release on the way to another dial or another
setup keeps the state it was begun in, and only one on the way to the end is a state
of its own: no supervisor is closed that was not closing right before.
-/

set_option autoImplicit false

namespace AmqpClient.Supervisor

def Goal.FitsState (state : SupervisorState) : Goal → Prop
  | .finish => state = .closing
  | .dial | .setup _ => state = .ready ∨ state = .initializing

/-- The states that may be read while the loop is at a point. -/
def Point.FitsState (state : SupervisorState) : Point → Prop
  | .entry => state = .disconnected ∨ state = .closed
  | .releaseChannel _ _ goal _ | .releaseConnection _ goal _ => goal.FitsState state
  | .dial _ | .dialPause _ => state = .connecting
  | .setup .. | .setupPause .. => state = .initializing
  | .ready _ => state = .ready
  | .closed => state = .closed

/-- The state fits the point, and the end comes only after the closing. -/
structure Stages (point : Point) (cells : SupervisorCells) : Prop where
  fits : point.FitsState cells.state
  ended : cells.state = .closed → cells.passed.head? = some .closing

abbrev Reaction.Stages (reaction : Reaction) : Prop :=
  Supervisor.Stages reaction.next.point reaction.cells

section

variable {plan : Plan} {signals : Signals} {now : Nat} {cells : SupervisorCells}

private theorem stages_of_open {point : Point} {state : SupervisorState}
    (held : cells.state = state)
    (fits : point.FitsState state) (isOpen : state ≠ .closed) : Stages point cells := by
  subst held
  exact ⟨fits, fun closed => absurd closed isOpen⟩

private theorem stages_of_keep {point next : Point} {after : SupervisorCells}
    (stages : Stages point cells) (state : after.state = cells.state)
    (passed : after.passed = cells.passed) (fits : next.FitsState cells.state) :
    Stages next after := by
  refine ⟨state ▸ fits, ?_⟩
  rw [state, passed]
  exact stages.ended

private theorem conclude_stages (closing : cells.state = .closing) : (conclude cells).Stages :=
  ⟨rfl, fun _ => by simp [conclude, SupervisorCells.setState, closing]⟩

private theorem finish_stages (plan : Plan) (now : Nat) (channel? connection? : Option Nat) :
    (finish plan now channel? connection? cells).Stages := by
  cases channel? with
  | some channel => exact stages_of_open rfl rfl nofun
  | none =>
      cases connection? with
      | some connection => exact stages_of_open rfl rfl nofun
      | none => exact conclude_stages rfl

private theorem dial_stages : (dial plan now cells).Stages := by
  unfold dial
  split
  · exact finish_stages plan now none none
  · exact stages_of_open rfl rfl nofun

private theorem setUp_stages (connection : Nat) :
    (setUp plan signals now connection cells).Stages := by
  unfold setUp
  dsimp only
  split
  · exact stages_of_open rfl (.inr rfl) nofun
  · exact stages_of_open rfl rfl nofun

private theorem arrive_stages (goal : Goal) (fits : goal.FitsState cells.state) :
    (arrive plan signals now goal cells).Stages := by
  cases goal with
  | dial => exact dial_stages
  | setup connection => exact setUp_stages connection
  | finish => exact conclude_stages fits

private theorem publishSession_stages (connection channel : Nat) :
    (publishSession connection channel cells).Stages :=
  stages_of_open rfl rfl nofun

private theorem installed_stages (connection channel : Nat) (setUp : cells.state = .initializing) :
    (installed plan now connection channel cells).Stages := by
  unfold installed
  split
  · exact stages_of_open setUp rfl nofun
  · exact publishSession_stages connection channel

private theorem continueInstall_stages (connection channel deadline : Nat)
    (progress : Topology.InstallProgress) (notices : List Notice)
    (setUp : cells.state = .initializing) :
    (continueInstall plan now connection channel deadline progress cells notices).Stages := by
  match progress with
  | .calling step => exact stages_of_open setUp rfl nofun
  | .finished (.ok ()) => exact installed_stages connection channel setUp
  | .finished (.error error) => exact stages_of_open setUp rfl nofun

private theorem setupReplied_stages (connection : Nat) (stage : Stage) (deadline : Nat)
    (reply : Reply)
    (setUp : cells.state = .initializing) :
    (setupReplied plan now connection stage deadline reply cells).Stages := by
  cases stage with
  | openChannel =>
      cases reply with
      | ok answer => exact continueInstall_stages connection _ _ _ _ setUp
      | error error => exact stages_of_open setUp rfl nofun
  | install channel step => exact continueInstall_stages connection channel deadline _ _ setUp
  | confirmSelect channel =>
      cases reply with
      | ok answer => exact publishSession_stages connection channel
      | error error => exact stages_of_open setUp rfl nofun
  | discard channel cause => exact stages_of_open setUp rfl nofun

private theorem setupExpired_stages (connection : Nat) (stage : Stage)
    (setUp : cells.state = .initializing) :
    (setupExpired plan now connection stage cells).Stages := by
  cases stage <;> exact stages_of_open setUp rfl nofun

private theorem leaveReady_stages (session : Session) (event : Event)
    (ready : cells.state = .ready) :
    (leaveReady plan now session event cells).Stages := by
  cases event with
  | shutdown => exact finish_stages plan now _ _
  | connectionClosed reason | channelClosed reason => exact stages_of_open ready (.inl rfl) nofun
  | reconnect =>
      unfold leaveReady
      dsimp only
      split
      · exact stages_of_open ready (.inl rfl) nofun
      · exact stages_of_open ready rfl nofun
  | begin | replied _ | expired => exact stages_of_open ready rfl nofun

private theorem react_stages {point : Point} (event : Event) (stages : Stages point cells) :
    (react plan signals now cells point event).Stages := by
  have fits := stages.fits
  cases point with
  | entry =>
      cases event with
      | begin => exact dial_stages
      | _ => exact stages
  | releaseChannel channel connection? goal deadline =>
      cases event with
      | replied _ | expired =>
          cases connection? with
          | some connection => exact stages_of_keep stages rfl rfl fits
          | none => exact arrive_stages goal fits
      | _ => exact stages
  | releaseConnection connection goal deadline =>
      cases event with
      | replied _ | expired => exact arrive_stages goal fits
      | _ => exact stages
  | dial deadline =>
      cases event with
      | shutdown => exact finish_stages plan now none none
      | replied reply =>
          cases reply with
          | ok answer => exact setUp_stages answer.id
          | error error => exact stages_of_open fits rfl nofun
      | expired => exact stages_of_open fits rfl nofun
      | _ => exact stages
  | dialPause deadline =>
      cases event with
      | shutdown => exact finish_stages plan now none none
      | expired => exact dial_stages
      | _ => exact stages
  | setup connection stage deadline =>
      cases event with
      | shutdown => exact finish_stages plan now none (some connection)
      | connectionClosed reason => exact stages_of_open fits (.inr rfl) nofun
      | replied reply => exact setupReplied_stages connection stage deadline reply fits
      | expired => exact setupExpired_stages connection stage fits
      | _ => exact stages
  | setupPause connection deadline =>
      cases event with
      | shutdown => exact finish_stages plan now none (some connection)
      | expired => exact setUp_stages connection
      | _ => exact stages
  | ready session => exact leaveReady_stages session event fits
  | closed => exact stages

end

/-! ## The state of a run -/

namespace Run

variable {plan : Plan} {run after : Run}

abbrev IsStaged (run : Run) : Prop :=
  Stages run.point run.cells

theorem IsStaged.react (staged : run.IsStaged) (event : Event) :
    (run.react plan event).IsStaged := by
  unfold IsStaged
  simpa [Run.react] using react_stages event staged

theorem IsStaged.step (staged : run.IsStaged) (coherent : run.IsCoherent)
    (step : Step plan run after) : after.IsStaged := by
  cases step with
  | pass | signal | poll | overlook => exact staged
  | name | wake => exact stages_of_keep staged rfl rfl staged.fits
  | start started =>
      obtain ⟨-, rfl⟩ := SupervisorCells.eq_of_start started
      exact stages_of_keep staged rfl rfl staged.fits
  | raise raised =>
      obtain ⟨-, rfl⟩ := SupervisorCells.eq_of_raiseShutdown raised
      exact stages_of_keep staged rfl rfl staged.fits
  | take ending =>
      unfold IsStaged
      cases handle : run.cells.handle with
      | present =>
          rw [SupervisorCells.takeHandle_of_present handle, cells_setCells, point_setCells]
          exact stages_of_keep staged rfl rfl staged.fits
      | absent =>
          rw [SupervisorCells.takeHandle_of_absent handle]
          constructor <;> simp [coherent.unstarted handle, Point.FitsState]
      | taken => exact absurd handle (coherent.ending ending).2
  | call idle overlooked =>
      unfold IsStaged
      simpa using staged
  | look | reply | expire =>
      refine IsStaged.react ?_ _
      unfold IsStaged
      simpa using staged

theorem isStaged_of_reachable (reached : Reachable plan run) : run.IsStaged := by
  induction reached with
  | refl => exact ⟨.inl rfl, nofun⟩
  | tail before step ih => exact ih.step (isCoherent_of_reachable before) step

end Run

end AmqpClient.Supervisor
