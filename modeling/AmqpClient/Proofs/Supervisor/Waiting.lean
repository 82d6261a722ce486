import AmqpClient.Proofs.Supervisor.Reconnect
import AmqpClient.Supervisor.Waiter

/-!
# A caller who waits for a session

The waiter looks once at whatever is written to the session cell, and it is woken by
the next write or by a shutdown. Nothing else can give it what it waits for: a session
that was closed when the waiter looked at it stays closed. So a waiter that is not
woken has missed nothing.
-/

set_option autoImplicit false

namespace AmqpClient

/-! ## Closing for good -/

/-- What a notifier may do to its cell. -/
inductive CloseCell.Changes (cell : CloseCell) : CloseCell → Prop where
  | stays : Changes cell cell
  | notified (reason : String) : Changes cell (cell.notify reason)
  | dropped : Changes cell cell.drop

theorem CloseCell.Changes.isClosed {cell after : CloseCell} (changes : cell.Changes after)
    (closed : cell.isClosed = true) : after.isClosed = true := by
  cases changes with
  | stays => exact closed
  | notified reason =>
      unfold CloseCell.notify
      split
      · exact closed
      · rfl
  | dropped => simp [CloseCell.drop, CloseCell.isClosed]

/-- Notifiers do what they may to their cells. -/
structure Signals.Changes (before after : Signals) : Prop where
  connection : ∀ number, (before.connection number).Changes (after.connection number)
  channel : ∀ number, (before.channel number).Changes (after.channel number)

private theorem Session.isReady_iff {signals : Signals} {session : Session} :
    session.isReady signals = true ↔
      (signals.connection session.connection).isClosed = false ∧
        (signals.channel session.channel).isClosed = false := by
  simp [Session.isReady]

/-- No session becomes ready by what notifiers do. -/
theorem Signals.Changes.isReady {before after : Signals} {session : Session}
    (changes : before.Changes after) (ready : session.isReady after = true) :
    session.isReady before = true := by
  have stays {cell next : CloseCell} (changed : cell.Changes next) (isOpen : next.isClosed = false) :
      cell.isClosed = false := by
    cases closed : cell.isClosed with
    | false => rfl
    | true => exact absurd (isOpen.symm.trans (changed.isClosed closed)) Bool.false_ne_true
  obtain ⟨connection, channel⟩ := Session.isReady_iff.mp ready
  exact Session.isReady_iff.mpr
    ⟨stays (changes.connection _) connection, stays (changes.channel _) channel⟩

/-! ## What a waiter has seen -/

/-- The session cell is as it was, unless it was written. -/
structure SupervisorCells.Rewrites (before after : SupervisorCells) : Prop where
  grows : before.sessionVersion ≤ after.sessionVersion
  unwritten : after.sessionVersion = before.sessionVersion → after.session = before.session

namespace SessionWaiter

variable {signals : Signals} {cells after : SupervisorCells} {waiter next : SessionWaiter}
  {session : Session}

theorem candidate?_eq_some_iff :
    waiter.candidate? signals cells = some session ↔
      cells.session = some session ∧ waiter.after < session.generation ∧
        session.isReady signals = true := by
  simp [candidate?, Option.filter_eq_some_iff]

/-- What the waiter has seen is no later than what is there, and was of no use to it. -/
def IsUpToDate (signals : Signals) (cells : SupervisorCells) (waiter : SessionWaiter) : Prop :=
  ∀ version, waiter.seen = some version →
    version ≤ cells.sessionVersion ∧
      (version = cells.sessionVersion → waiter.candidate? signals cells = none)

namespace IsUpToDate

theorem initial (generation : Nat) :
    ({ after := generation } : SessionWaiter).IsUpToDate signals cells :=
  nofun

private theorem rewrite (upToDate : waiter.IsUpToDate signals cells)
    (rewrites : cells.Rewrites after) :
    waiter.IsUpToDate signals after := by
  intro version seen
  obtain ⟨known, useless⟩ := upToDate version seen
  refine ⟨Nat.le_trans known rewrites.grows, fun current => ?_⟩
  have unwritten : after.sessionVersion = cells.sessionVersion :=
    Nat.le_antisymm (current ▸ known) rewrites.grows
  unfold candidate?
  rw [rewrites.unwritten unwritten]
  exact useless (current.trans unwritten)

theorem close {closing : Signals} (upToDate : waiter.IsUpToDate signals cells)
    (changes : signals.Changes closing) : waiter.IsUpToDate closing cells := by
  intro version seen
  obtain ⟨known, useless⟩ := upToDate version seen
  refine ⟨known, fun current => ?_⟩
  cases found : waiter.candidate? closing cells with
  | none => rfl
  | some session =>
      obtain ⟨held, newer, ready⟩ := candidate?_eq_some_iff.mp found
      have before : waiter.candidate? signals cells = some session :=
        candidate?_eq_some_iff.mpr ⟨held, newer, changes.isReady ready⟩
      cases (useless current).symm.trans before

theorem isWoken (upToDate : waiter.IsUpToDate signals cells)
    (found : waiter.candidate? signals cells = some session) : waiter.isWoken cells = true := by
  have unseen : waiter.seen ≠ some cells.sessionVersion := by
    intro seen
    cases ((upToDate _ seen).2 rfl).symm.trans found
  simp [SessionWaiter.isWoken, unseen]

end IsUpToDate

/-- A waiter that goes on waiting has seen what is there, and it was of no use. -/
theorem eq_of_poll_error (inVain : waiter.poll signals cells = .error next) :
    next.after = waiter.after ∧
      (waiter.IsUpToDate signals cells → next.IsUpToDate signals cells) := by
  unfold poll at inVain
  split at inVain
  · cases inVain
  · split at inVain
    · split at inVain
      · cases inVain
      · next useless =>
        cases inVain
        refine ⟨rfl, fun _ version seen => ?_⟩
        cases seen
        exact ⟨Nat.le_refl _, fun _ => useless⟩
    · cases inVain
      exact ⟨rfl, id⟩

theorem poll_eq_ok_iff :
    waiter.poll signals cells = .ok (.ok session) ↔
      cells.isShutDown = false ∧ waiter.isWoken cells = true ∧
        waiter.candidate? signals cells = some session := by
  unfold poll
  split
  · next down => simp [down]
  · next up =>
    split
    · next woken => split <;> simp_all
    · next asleep => simp [asleep]

theorem poll_eq_error_iff {error : ClientError} :
    waiter.poll signals cells = .ok (.error error) ↔
      error = .shutdown ∧ cells.isShutDown = true := by
  unfold poll
  split
  · next down => simp [down, eq_comm]
  · next up =>
    split
    · split <;> simp [up]
    · simp [up]

end SessionWaiter

namespace Supervisor

/-! ## Writes to the session cell -/

section

variable {plan : Plan} {run after : Run} {cells : SupervisorCells} {reaction : Reaction}

private theorem SessionMove.rewrites (move : SessionMove cells reaction) :
    cells.Rewrites reaction.cells := by
  cases move with
  | keep state passed same leads =>
      rw [same]
      exact ⟨Nat.le_refl _, fun _ => rfl⟩
  | withdraw state passed version newer cleared leads =>
      rw [cleared]
      exact ⟨Nat.le_of_lt newer, fun same => absurd same (Nat.ne_of_gt newer)⟩
  | publish session passed next stored leads =>
      rw [stored]
      exact ⟨Nat.le_succ _, fun same => absurd same (Nat.succ_ne_self _)⟩

private theorem ReadyMove.rewrites {session : Session} {event : Event}
    (move : ReadyMove cells session event reaction) : cells.Rewrites reaction.cells := by
  cases move with
  | leave state passed version hasRequest newer cleared leads meant pending =>
      rw [cleared]
      exact ⟨Nat.le_of_lt newer, fun same => absurd same (Nat.ne_of_gt newer)⟩
  | stay hasRequest same leads stale pending =>
      rw [same]
      exact ⟨Nat.le_refl _, fun _ => rfl⟩

private theorem Run.IsCoherent.react_rewrites (coherent : run.IsCoherent) (ending : Call → Mark)
    (event : Event) :
    run.cells.Rewrites ((run.endCall plan ending).react plan event).cells := by
  rw [← run.cells_endCall plan ending, Run.react, Run.cells_moveTo, Run.cells_setCells]
  rcases (coherent.endCall ending).react_moves plan event with ⟨session, -, -, move⟩ | ⟨-, move⟩
  · exact move.rewrites
  · exact move.rewrites

private theorem Step.rewrites (step : Step plan run after) (coherent : run.IsCoherent) :
    run.cells.Rewrites after.cells := by
  cases step with
  | pass | signal | name | wake | poll | overlook => exact ⟨Nat.le_refl _, fun _ => rfl⟩
  | start started =>
      obtain ⟨-, rfl⟩ := SupervisorCells.eq_of_start started
      exact ⟨Nat.le_refl _, fun _ => rfl⟩
  | raise raised =>
      obtain ⟨-, rfl⟩ := SupervisorCells.eq_of_raiseShutdown raised
      exact ⟨Nat.le_refl _, fun _ => rfl⟩
  | take ending =>
      rw [Run.cells_setCells]
      cases handle : run.cells.handle with
      | present =>
          rw [SupervisorCells.takeHandle_of_present handle]
          exact ⟨Nat.le_refl _, fun _ => rfl⟩
      | absent =>
          rw [SupervisorCells.takeHandle_of_absent handle]
          exact ⟨Nat.le_succ _, fun same => absurd same (Nat.succ_ne_self _)⟩
      | taken => exact absurd handle (coherent.ending ending).2
  | call => exact ⟨by simp, by simp⟩
  | look | reply | expire => exact coherent.react_rewrites _ _

end

/-! ## A run and a waiter -/

/-- A run of the supervisor beside a caller who waits. -/
structure Vigil where
  run : Run
  waiter : SessionWaiter

namespace Vigil

/-- One step of the run, the end of connections and channels, or a poll of the waiter
that does not end the wait. -/
inductive Step (plan : Plan) : Vigil → Vigil → Prop where
  | supervise {vigil : Vigil} {after : Run} (step : Supervisor.Step plan vigil.run after)
      (signals : after.signals = vigil.run.signals) :
      Step plan vigil { vigil with run := after }
  | close {vigil : Vigil} {signals : Signals} (changes : vigil.run.signals.Changes signals) :
      Step plan vigil { vigil with run := { vigil.run with signals } }
  | poll {vigil : Vigil} {waiter : SessionWaiter}
      (inVain : vigil.waiter.poll vigil.run.signals vigil.run.cells = .error waiter) :
      Step plan vigil { vigil with waiter }

abbrev Steps (plan : Plan) : Vigil → Vigil → Prop :=
  Relation.ReflTransGen (Step plan)

/-- What a waiter that wants a later session than that of a generation is told by a
poll, and when it has to be polled. -/
structure IsExact (generation : Nat) (vigil : Vigil) : Prop where
  returns : ∀ session,
    vigil.waiter.poll vigil.run.signals vigil.run.cells = .ok (.ok session) ↔
      vigil.run.cells.isShutDown = false ∧ vigil.run.cells.session = some session ∧
        generation < session.generation ∧
        (vigil.run.signals.connection session.connection).isClosed = false ∧
        (vigil.run.signals.channel session.channel).isClosed = false
  fails : ∀ error,
    vigil.waiter.poll vigil.run.signals vigil.run.cells = .ok (.error error) ↔
      error = .shutdown ∧ vigil.run.cells.isShutDown = true
  awake : vigil.run.cells.isShutDown = true ∨
      (∃ session, vigil.run.cells.session = some session ∧ generation < session.generation ∧
        session.isReady vigil.run.signals = true) →
    vigil.waiter.isWoken vigil.run.cells = true

/-- What holds of the run and the waiter at any time. -/
structure IsKept (generation : Nat) (vigil : Vigil) : Prop where
  coherent : vigil.run.IsCoherent
  wanted : vigil.waiter.after = generation
  upToDate : vigil.waiter.IsUpToDate vigil.run.signals vigil.run.cells

variable {plan : Plan} {generation : Nat} {vigil after : Vigil}

theorem IsKept.step (kept : vigil.IsKept generation) (step : Step plan vigil after) :
    after.IsKept generation := by
  obtain ⟨coherent, wanted, upToDate⟩ := kept
  cases step with
  | supervise step signals =>
      refine ⟨coherent.step step, wanted, ?_⟩
      have rewritten := upToDate.rewrite (step.rewrites coherent)
      rw [← signals] at rewritten
      exact rewritten
  | close changes =>
      exact ⟨coherent.congr rfl rfl rfl rfl, wanted, upToDate.close changes⟩
  | poll inVain =>
      obtain ⟨same, goesOn⟩ := SessionWaiter.eq_of_poll_error inVain
      exact ⟨coherent, same.trans wanted, goesOn upToDate⟩

theorem IsKept.steps (kept : vigil.IsKept generation) (taken : Steps plan vigil after) :
    after.IsKept generation := by
  induction taken with
  | refl => exact kept
  | tail _ step ih => exact ih.step step

private theorem IsKept.isExact (kept : vigil.IsKept generation) : vigil.IsExact generation := by
  obtain ⟨-, wanted, upToDate⟩ := kept
  constructor
  · intro session
    rw [SessionWaiter.poll_eq_ok_iff]
    constructor
    · rintro ⟨up, -, found⟩
      obtain ⟨held, newer, ready⟩ := SessionWaiter.candidate?_eq_some_iff.mp found
      exact ⟨up, held, wanted ▸ newer, Session.isReady_iff.mp ready⟩
    · rintro ⟨up, held, newer, isOpen⟩
      have found : vigil.waiter.candidate? vigil.run.signals vigil.run.cells = some session :=
        SessionWaiter.candidate?_eq_some_iff.mpr
          ⟨held, wanted.symm ▸ newer, Session.isReady_iff.mpr isOpen⟩
      exact ⟨up, upToDate.isWoken found, found⟩
  · intro error
    exact SessionWaiter.poll_eq_error_iff
  · rintro (down | ⟨session, held, newer, ready⟩)
    · simp [SessionWaiter.isWoken, down]
    · exact upToDate.isWoken
        (SessionWaiter.candidate?_eq_some_iff.mpr ⟨held, wanted.symm ▸ newer, ready⟩)

theorem isExact_of_steps {run : Run} (reached : Reachable plan run)
    (taken : Steps plan { run, waiter := { after := generation } } vigil) :
    vigil.IsExact generation := by
  have begun : IsKept generation { run, waiter := { after := generation } } :=
    ⟨Run.isCoherent_of_reachable reached, rfl, .initial generation⟩
  exact (begun.steps taken).isExact

/-- The waiter looks in vain before the loop has begun. -/
def oneQueueVigil : Vigil :=
  { run := oneQueueReady, waiter := { after := 0, seen := some 0 } }

private theorem steps_oneQueueVigil :
    Steps oneQueue { run := {}, waiter := { after := 0 } } oneQueueVigil := by
  have asleep : Steps oneQueue { run := {}, waiter := { after := 0 } }
      { run := {}, waiter := { after := 0, seen := some 0 } } := .single (.poll rfl)
  have started := asleep.tail (.supervise (.start rfl) rfl)
  have begun := started.tail (.supervise (.look (by decide) rfl rfl) rfl)
  have overlooked := begun.tail (.supervise (.overlook rfl rfl) rfl)
  have dialing := overlooked.tail (.supervise (.call rfl rfl) rfl)
  have connected := dialing.tail (.supervise (.answered (.connection 0) rfl rfl rfl rfl) rfl)
  have turned := connected.tail (.supervise (.overlook rfl rfl) rfl)
  have opening := turned.tail (.supervise (.call rfl rfl) rfl)
  have opened := opening.tail (.supervise (.answered (.channel 0) rfl rfl rfl rfl) rfl)
  exact opened.tail (.supervise (.answered (.found true) rfl rfl rfl rfl) rfl)

theorem isExact_ready :
    oneQueueVigil.run.cells.session = some oneQueueSession ∧
      Steps oneQueue { run := {}, waiter := { after := 0 } } oneQueueVigil ∧
      oneQueueVigil.IsExact 0 := by
  have begun : Reachable oneQueue {} := .refl
  exact ⟨rfl, steps_oneQueueVigil, isExact_of_steps begun steps_oneQueueVigil⟩

end Vigil

end Supervisor

end AmqpClient
