import AmqpClient.Proofs.Supervisor.Run

/-!
# The session of a run

The session cell is filled exactly while the loop watches a ready session, and
then with that session. Every session gets the generation after the last one.
-/

set_option autoImplicit false

namespace AmqpClient.Supervisor

/-! ## Reactions and the session cell -/

/-- What a reaction away from a ready session does to the cells. -/
inductive SessionMove (cells : SupervisorCells) (reaction : Reaction) : Prop where
  | keep (state : SupervisorState) (passed : List SupervisorState)
      (same : reaction.cells = { cells with state, passed })
      (leads : ∀ session, reaction.next.point ≠ .ready session)
  | withdraw (state : SupervisorState) (passed : List SupervisorState) (version : Nat)
      (newer : cells.sessionVersion < version)
      (cleared : reaction.cells =
        { cells with state, passed, session := none, sessionVersion := version })
      (leads : ∀ session, reaction.next.point ≠ .ready session)
  | publish (session : Session) (passed : List SupervisorState)
      (next : session.generation = cells.generations + 1)
      (stored : reaction.cells =
        { cells with
          state := .ready
          passed
          session := some session
          sessionVersion := cells.sessionVersion + 1
          generations := session.generation })
      (leads : reaction.next = .await (.ready session))

/-- What a reaction at a ready session does to the cells. Only a request that names
another generation is met without leaving the session. -/
inductive ReadyMove (cells : SupervisorCells) (session : Session) (event : Event)
    (reaction : Reaction) : Prop where
  | leave (state : SupervisorState) (passed : List SupervisorState) (version : Nat)
      (hasRequest : Bool) (newer : cells.sessionVersion < version)
      (cleared : reaction.cells =
        { cells with state, passed, session := none, sessionVersion := version, hasRequest })
      (leads : ∀ session, reaction.next.point ≠ .ready session)
      (meant : event = .reconnect → cells.requested = session.generation)
      (pending : event ≠ .reconnect → hasRequest = cells.hasRequest)
  | stay (hasRequest : Bool) (same : reaction.cells = { cells with hasRequest })
      (leads : reaction.next = .await (.ready session))
      (stale : event = .reconnect → cells.requested ≠ session.generation)
      (pending : event ≠ .reconnect → hasRequest = cells.hasRequest)

section

variable (plan : Plan) (signals : Signals) (now : Nat) (cells : SupervisorCells)

private theorem keep_sessionMove {reaction : Reaction} (same : reaction.cells = cells)
    (leads : ∀ session, reaction.next.point ≠ .ready session) : SessionMove cells reaction :=
  .keep cells.state cells.passed same leads

private theorem stay_sessionMove {point : Point} (away : ∀ session, point ≠ .ready session) :
    SessionMove cells { cells, next := .await point } :=
  keep_sessionMove cells rfl away

private theorem finish_sessionMove (channel? connection? : Option Nat) :
    SessionMove cells (finish plan now channel? connection? cells) := by
  have newer : cells.sessionVersion < cells.sessionVersion + 1 := Nat.lt_succ_self _
  cases channel? with
  | some channel => exact .withdraw .closing _ _ newer rfl (by simp [finish, Next.point])
  | none =>
      cases connection? with
      | some connection => exact .withdraw .closing _ _ newer rfl (by simp [finish, Next.point])
      | none => exact .withdraw .closed _ _ newer rfl (by simp [finish, conclude, Next.point])

private theorem dial_sessionMove : SessionMove cells (dial plan now cells) := by
  unfold dial
  split
  · exact finish_sessionMove plan now cells none none
  · exact .keep .connecting _ rfl (by simp [Next.point])

private theorem setUp_sessionMove (connection : Nat) :
    SessionMove cells (setUp plan signals now connection cells) := by
  unfold setUp
  dsimp only
  split
  · exact .keep .initializing _ rfl (by simp [redial, Next.point])
  · exact .keep .initializing _ rfl (by simp [Next.point])

private theorem arrive_sessionMove (goal : Goal) :
    SessionMove cells (arrive plan signals now goal cells) := by
  cases goal with
  | dial => exact dial_sessionMove plan now cells
  | setup connection => exact setUp_sessionMove plan signals now cells connection
  | finish => exact .keep .closed _ rfl (by simp [arrive, conclude, Next.point])

private theorem publishSession_sessionMove (connection channel : Nat) :
    SessionMove cells (publishSession connection channel cells) :=
  .publish { generation := cells.generations + 1, connection, channel } _ rfl rfl rfl

private theorem installed_sessionMove (connection channel : Nat) :
    SessionMove cells (installed plan now connection channel cells) := by
  unfold installed
  split
  · exact keep_sessionMove cells rfl (by simp [Next.point])
  · exact publishSession_sessionMove cells connection channel

private theorem continueInstall_sessionMove (connection channel deadline : Nat)
    (progress : Topology.InstallProgress) (notices : List Notice) :
    SessionMove cells
      (continueInstall plan now connection channel deadline progress cells notices) := by
  match progress with
  | .calling step => exact keep_sessionMove cells rfl (by simp [continueInstall, Next.point])
  | .finished (.ok ()) => exact installed_sessionMove plan now cells connection channel
  | .finished (.error error) =>
      exact keep_sessionMove cells rfl (by simp [continueInstall, discard, Next.point])

private theorem setupReplied_sessionMove (connection : Nat) (stage : Stage) (deadline : Nat)
    (reply : Reply) :
    SessionMove cells (setupReplied plan now connection stage deadline reply cells) := by
  cases stage with
  | openChannel =>
      cases reply with
      | ok answer => exact continueInstall_sessionMove plan now cells _ _ _ _ _
      | error error =>
          exact keep_sessionMove cells rfl (by simp [setupReplied, setupFailed, Next.point])
  | install channel step => exact continueInstall_sessionMove plan now cells _ _ _ _ _
  | confirmSelect channel =>
      cases reply with
      | ok answer => exact publishSession_sessionMove cells connection channel
      | error error =>
          exact keep_sessionMove cells rfl (by simp [setupReplied, discard, Next.point])
  | discard channel cause =>
      exact keep_sessionMove cells rfl (by simp [setupReplied, setupFailed, Next.point])

private theorem setupExpired_sessionMove (connection : Nat) (stage : Stage) :
    SessionMove cells (setupExpired plan now connection stage cells) := by
  cases stage <;>
    exact keep_sessionMove cells rfl (by simp [setupExpired, setupFailed, discard, Next.point])

private theorem react_sessionMove {point : Point} (away : ∀ session, point ≠ .ready session)
    (event : Event) : SessionMove cells (react plan signals now cells point event) := by
  cases point with
  | entry =>
      cases event with
      | begin => exact dial_sessionMove plan now cells
      | _ => exact stay_sessionMove cells away
  | releaseChannel channel connection? goal deadline =>
      cases event with
      | replied _ | expired =>
          cases connection? with
          | some connection => exact keep_sessionMove cells rfl (by simp [react, Next.point])
          | none => exact arrive_sessionMove plan signals now cells goal
      | _ => exact stay_sessionMove cells away
  | releaseConnection connection goal deadline =>
      cases event with
      | replied _ | expired => exact arrive_sessionMove plan signals now cells goal
      | _ => exact stay_sessionMove cells away
  | dial deadline =>
      cases event with
      | shutdown => exact finish_sessionMove plan now cells none none
      | replied reply =>
          cases reply with
          | ok answer => exact setUp_sessionMove plan signals now cells answer.id
          | error error =>
              exact keep_sessionMove cells rfl (by simp [react, dialFailed, Next.point])
      | expired => exact keep_sessionMove cells rfl (by simp [react, dialFailed, Next.point])
      | _ => exact stay_sessionMove cells away
  | dialPause deadline =>
      cases event with
      | shutdown => exact finish_sessionMove plan now cells none none
      | expired => exact dial_sessionMove plan now cells
      | _ => exact stay_sessionMove cells away
  | setup connection stage deadline =>
      cases event with
      | shutdown => exact finish_sessionMove plan now cells none (some connection)
      | connectionClosed reason =>
          exact keep_sessionMove cells rfl (by simp [react, redial, Next.point])
      | replied reply =>
          exact setupReplied_sessionMove plan now cells connection stage deadline reply
      | expired => exact setupExpired_sessionMove plan now cells connection stage
      | _ => exact stay_sessionMove cells away
  | setupPause connection deadline =>
      cases event with
      | shutdown => exact finish_sessionMove plan now cells none (some connection)
      | expired => exact setUp_sessionMove plan signals now cells connection
      | _ => exact stay_sessionMove cells away
  | ready session => exact absurd rfl (away session)
  | closed => exact stay_sessionMove cells away

private theorem react_readyMove (session : Session) (event : Event) :
    ReadyMove cells session event (react plan signals now cells (.ready session) event) := by
  have newer : cells.sessionVersion < cells.sessionVersion + 1 := Nat.lt_succ_self _
  cases event with
  | shutdown =>
      exact .leave .closing _ (cells.sessionVersion + 2) cells.hasRequest (by omega) rfl
        (by simp [react, leaveReady, finish, Next.point]) (by simp) fun _ => rfl
  | connectionClosed reason | channelClosed reason =>
      exact .leave cells.state cells.passed _ cells.hasRequest newer rfl
        (by simp [react, leaveReady, Next.point]) (by simp) fun _ => rfl
  | reconnect =>
      by_cases meant : cells.requested = session.generation
      · exact .leave cells.state cells.passed _ false newer
          (by simp [react, leaveReady, meant, SupervisorCells.setSession])
          (by simp [react, leaveReady, meant, Next.point]) (fun _ => meant)
          fun other => absurd rfl other
      · exact .stay false (by simp [react, leaveReady, meant])
          (by simp [react, leaveReady, meant]) (fun _ => meant) fun other => absurd rfl other
  | begin | replied _ | expired => exact .stay cells.hasRequest rfl rfl (by simp) fun _ => rfl

/-- The cells that callers write and the loop only reads. -/
structure LeavesCallers (before after : SupervisorCells) : Prop where
  isShutDown : after.isShutDown = before.isShutDown
  requested : after.requested = before.requested
  handle : after.handle = before.handle

private theorem SessionMove.leavesCallers {reaction : Reaction}
    (move : SessionMove cells reaction) :
    LeavesCallers cells reaction.cells := by
  cases move with
  | keep state passed same leads => constructor <;> rw [same]
  | withdraw state passed version newer cleared leads => constructor <;> rw [cleared]
  | publish session passed next stored leads => constructor <;> rw [stored]

private theorem ReadyMove.leavesCallers {session : Session} {event : Event} {reaction : Reaction}
    (move : ReadyMove cells session event reaction) : LeavesCallers cells reaction.cells := by
  cases move with
  | leave state passed version hasRequest newer cleared leads meant pending =>
      constructor <;> rw [cleared]
  | stay hasRequest same leads stale pending => constructor <;> rw [same]

theorem react_leavesCallers (point : Point) (event : Event) :
    LeavesCallers cells (react plan signals now cells point event).cells := by
  by_cases isReady : ∃ session, point = .ready session
  · obtain ⟨session, rfl⟩ := isReady
    exact (react_readyMove plan signals now cells session event).leavesCallers
  · have away : ∀ session, point ≠ .ready session := not_exists.mp isReady
    exact (react_sessionMove plan signals now cells away event).leavesCallers

end

/-! ## The session of a run -/

namespace Run

/-- What holds of the cells and the point throughout a run. -/
structure IsCoherent (run : Run) : Prop where
  current : ∀ session, run.point = .ready session ↔ run.cells.session = some session
  counted : ∀ session, run.cells.session = some session →
    session.generation = run.cells.generations
  unstarted : run.cells.handle = .absent → run.point = .entry
  ended : run.cells.handle = .taken → run.cells.isShutDown = true
  ending : run.isEnding = true → run.cells.isShutDown = true ∧ run.cells.handle ≠ .taken
  requested : run.cells.requested = run.named.getLast?.getD 0

namespace IsCoherent

variable {plan : Plan} {run : Run}

theorem initial : ({} : Run).IsCoherent where
  current session := by simp
  counted session := nofun
  unstarted _ := rfl
  ended := nofun
  ending := nofun
  requested := rfl

theorem congr {after : Run} (coherent : run.IsCoherent) (cells : after.cells = run.cells)
    (point : after.point = run.point) (isEnding : after.isEnding = run.isEnding)
    (named : after.named = run.named) : after.IsCoherent := by
  obtain ⟨current, counted, unstarted, ended, ending, requested⟩ := coherent
  constructor <;> simp only [cells, point, isEnding, named] <;> assumption

theorem makeCall (coherent : run.IsCoherent) : (run.makeCall plan).IsCoherent :=
  coherent.congr (by simp) (by simp) (by simp) (by simp)

theorem endCall (coherent : run.IsCoherent) (ending : Call → Mark) :
    (run.endCall plan ending).IsCoherent :=
  coherent.congr (by simp) (by simp) (by simp) (by simp)

theorem session_eq_none (coherent : run.IsCoherent)
    (away : ∀ session, run.point ≠ .ready session) : run.cells.session = none := by
  cases held : run.cells.session with
  | none => rfl
  | some session => exact absurd ((coherent.current session).mpr held) (away session)

/-- A reaction is a move at the session that is watched, or away from any session. -/
theorem react_moves (coherent : run.IsCoherent) (plan : Plan) (event : Event) :
    (∃ session, run.point = .ready session ∧ run.cells.session = some session ∧
        ReadyMove run.cells session event
          (Supervisor.react plan run.signals run.now run.cells run.point event)) ∨
      run.cells.session = none ∧
        SessionMove run.cells
          (Supervisor.react plan run.signals run.now run.cells run.point event) := by
  by_cases isReady : ∃ session, run.point = .ready session
  · obtain ⟨session, atReady⟩ := isReady
    refine .inl ⟨session, atReady, (coherent.current session).mp atReady, ?_⟩
    rw [atReady]
    exact react_readyMove plan run.signals run.now run.cells session event
  · have away : ∀ session, run.point ≠ .ready session := not_exists.mp isReady
    exact .inr ⟨coherent.session_eq_none away,
      react_sessionMove plan run.signals run.now run.cells away event⟩

/-- A reaction fills the session cell exactly if it leads to a ready session. -/
theorem react_current (coherent : run.IsCoherent) (event : Event) (session : Session) :
    (run.react plan event).point = .ready session ↔
      (run.react plan event).cells.session = some session := by
  rcases coherent.react_moves plan event with ⟨former, -, held, move⟩ | ⟨empty, move⟩
  · cases move with
    | leave state passed version hasRequest newer cleared leads meant pending =>
        simp [Run.react, cleared, leads]
    | stay hasRequest same leads stale pending =>
        simp [Run.react, same, leads, Next.point, held]
  · cases move with
    | keep state passed same leads => simp [Run.react, same, leads, empty]
    | withdraw state passed version newer cleared leads => simp [Run.react, cleared, leads]
    | publish session passed next stored leads => simp [Run.react, stored, leads, Next.point]

private theorem react_counted (coherent : run.IsCoherent) (event : Event) (session : Session)
    (stored : (run.react plan event).cells.session = some session) :
    session.generation = (run.react plan event).cells.generations := by
  simp only [Run.react, Run.cells_moveTo, Run.cells_setCells] at stored ⊢
  rcases coherent.react_moves plan event with ⟨former, -, -, move⟩ | ⟨-, move⟩
  · cases move with
    | leave state passed version hasRequest newer cleared leads meant pending =>
        simp [cleared] at stored
    | stay hasRequest same leads stale pending =>
        rw [same] at stored ⊢
        exact coherent.counted session stored
  · cases move with
    | keep state passed same leads =>
        rw [same] at stored ⊢
        exact coherent.counted session stored
    | withdraw state passed version newer cleared leads => simp [cleared] at stored
    | publish published passed next write leads =>
        rw [write] at stored ⊢
        cases stored
        rfl

theorem react (coherent : run.IsCoherent) (started : run.cells.handle ≠ .absent)
    (event : Event) : (run.react plan event).IsCoherent := by
  have left := react_leavesCallers plan run.signals run.now run.cells run.point event
  exact {
    current := coherent.react_current event
    counted := coherent.react_counted event
    unstarted := by simp [Run.react, left.handle, started]
    ended := by simpa [Run.react, left.handle, left.isShutDown] using coherent.ended
    ending := by simpa [Run.react, left.handle, left.isShutDown] using coherent.ending
    requested := by simpa [Run.react, left.requested] using coherent.requested }

theorem started (coherent : run.IsCoherent) (away : run.point ≠ .entry) :
    run.cells.handle ≠ .absent :=
  fun absent => away (coherent.unstarted absent)

theorem step {after : Run} (coherent : run.IsCoherent) (step : Step plan run after) :
    after.IsCoherent := by
  cases step with
  | pass | signal | poll | overlook => exact coherent.congr rfl rfl rfl rfl
  | start started =>
      obtain ⟨up, rfl⟩ := SupervisorCells.eq_of_start started
      have goesOn (ending : run.isEnding = true) : False :=
        Bool.false_ne_true (up.symm.trans (coherent.ending ending).1)
      exact ⟨coherent.current, coherent.counted, nofun, nofun,
        fun ending => (goesOn ending).elim, coherent.requested⟩
  | raise raised =>
      obtain ⟨up, rfl⟩ := SupervisorCells.eq_of_raiseShutdown raised
      have untaken (taken : run.cells.handle = .taken) : False :=
        Bool.false_ne_true (up.symm.trans (coherent.ended taken))
      exact ⟨coherent.current, coherent.counted, coherent.unstarted, fun _ => rfl,
        fun _ => ⟨rfl, untaken⟩, coherent.requested⟩
  | take ending =>
      obtain ⟨isShutDown, notTaken⟩ := coherent.ending ending
      cases handle : run.cells.handle with
      | absent =>
          have atEntry := coherent.unstarted handle
          rw [SupervisorCells.takeHandle_of_absent handle]
          constructor <;> simp [atEntry, handle]
          exact coherent.requested
      | present =>
          rw [SupervisorCells.takeHandle_of_present handle]
          constructor <;> simp [isShutDown]
          · exact coherent.current
          · exact coherent.counted
          · exact coherent.requested
      | taken => exact absurd handle notTaken
  | name generation =>
      exact ⟨coherent.current, coherent.counted, coherent.unstarted, coherent.ended,
        coherent.ending, by simp [Run.name, SupervisorCells.nameGeneration]⟩
  | wake =>
      exact ⟨coherent.current, coherent.counted, coherent.unstarted, coherent.ended,
        coherent.ending, coherent.requested⟩
  | look started looks found => exact (coherent.endCall _).react (by simpa using started) _
  | call idle overlooked => exact coherent.makeCall
  | reply calling overlooked pending answers =>
      have away : run.point ≠ .entry := by
        intro atEntry
        simp [atEntry, Point.call?] at pending
      exact (coherent.endCall _).react (by simpa using coherent.started away) _
  | expire waits overlooked limit due =>
      have away : run.point ≠ .entry := by
        intro atEntry
        simp [atEntry, Point.deadline?] at limit
      exact (coherent.endCall _).react (by simpa using coherent.started away) _

theorem steps {after : Run} (coherent : run.IsCoherent) (taken : Steps plan run after) :
    after.IsCoherent := by
  induction taken with
  | refl => exact coherent
  | tail _ step ih => exact ih.step step

end IsCoherent

theorem isCoherent_of_reachable {plan : Plan} {run : Run} (reached : Reachable plan run) :
    run.IsCoherent :=
  IsCoherent.initial.steps reached

end Run

end AmqpClient.Supervisor
