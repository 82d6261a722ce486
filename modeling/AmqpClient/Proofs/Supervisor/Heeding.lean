import AmqpClient.Proofs.Supervisor.Reconnect
import AmqpClient.Proofs.Supervisor.Unwinding

/-!
# Requests that are heeded

Only a request that names the session the loop watches is heeded. Whatever else is
asked of the loop leaves no trace: each run is, but for its requests, a run in which
every request was made for the session at hand and was met at once.
-/

set_option autoImplicit false

namespace AmqpClient

/-! ## The same, but for the requests -/

/-- The same cells after other requests. -/
def SupervisorCells.asking (requested : Nat) (hasRequest : Bool) (cells : SupervisorCells) :
    SupervisorCells :=
  { cells with requested, hasRequest }

namespace SupervisorCells

variable {requested : Nat} {hasRequest : Bool} {cells after : SupervisorCells}

private theorem start_asking (started : cells.start = .ok after) :
    (cells.asking requested hasRequest).start = .ok (after.asking requested hasRequest) := by
  obtain ⟨up, rfl⟩ := eq_of_start started
  unfold start at started ⊢
  simp only [asking]
  split at started
  · cases started
  · split at started
    · cases started
    · next down startable => simp [startable, down]

private theorem raiseShutdown_asking (raised : cells.raiseShutdown = .ok after) :
    (cells.asking requested hasRequest).raiseShutdown =
      .ok (after.asking requested hasRequest) := by
  obtain ⟨up, rfl⟩ := eq_of_raiseShutdown raised
  simp [raiseShutdown, asking, up]

private theorem takeHandle_asking :
    (cells.asking requested hasRequest).takeHandle =
      cells.takeHandle.asking requested hasRequest := by
  have same : (cells.asking requested hasRequest).handle = cells.handle := rfl
  unfold takeHandle
  rw [same]
  cases cells.handle <;> rfl

end SupervisorCells

namespace Supervisor

def Reaction.asking (requested : Nat) (hasRequest : Bool) (reaction : Reaction) : Reaction :=
  { reaction with cells := reaction.cells.asking requested hasRequest }

/-- The same run after other requests. -/
def Run.asking (requested : Nat) (hasRequest : Bool) (named : List Nat) (run : Run) : Run :=
  { run with cells := run.cells.asking requested hasRequest, named }

section

variable {plan : Plan} {signals : Signals} {now requested : Nat} {hasRequest : Bool}
  {cells : SupervisorCells}

private theorem finish_asking (plan : Plan) (now : Nat) (channel? connection? : Option Nat) :
    finish plan now channel? connection? (cells.asking requested hasRequest) =
      (finish plan now channel? connection? cells).asking requested hasRequest := by
  cases channel? with
  | some channel => rfl
  | none => cases connection? <;> rfl

private theorem dial_asking :
    dial plan now (cells.asking requested hasRequest) =
      (dial plan now cells).asking requested hasRequest := by
  have same : (cells.asking requested hasRequest).isShutDown = cells.isShutDown := rfl
  unfold dial
  rw [same]
  split
  · exact finish_asking plan now none none
  · rfl

private theorem setUp_asking (connection : Nat) :
    setUp plan signals now connection (cells.asking requested hasRequest) =
      (setUp plan signals now connection cells).asking requested hasRequest := by
  unfold setUp
  dsimp only
  split <;> rfl

private theorem arrive_asking (goal : Goal) :
    arrive plan signals now goal (cells.asking requested hasRequest) =
      (arrive plan signals now goal cells).asking requested hasRequest := by
  cases goal with
  | dial => exact dial_asking
  | setup connection => exact setUp_asking connection
  | finish => rfl

private theorem installed_asking (connection channel : Nat) :
    installed plan now connection channel (cells.asking requested hasRequest) =
      (installed plan now connection channel cells).asking requested hasRequest := by
  unfold installed
  split <;> rfl

private theorem continueInstall_asking (connection channel deadline : Nat)
    (progress : Topology.InstallProgress) (notices : List Notice) :
    continueInstall plan now connection channel deadline progress
        (cells.asking requested hasRequest) notices =
      (continueInstall plan now connection channel deadline progress cells notices).asking
        requested hasRequest := by
  match progress with
  | .calling step => rfl
  | .finished (.ok ()) => exact installed_asking connection channel
  | .finished (.error error) => rfl

private theorem setupReplied_asking (connection : Nat) (stage : Stage) (deadline : Nat)
    (reply : Reply) :
    setupReplied plan now connection stage deadline reply (cells.asking requested hasRequest) =
      (setupReplied plan now connection stage deadline reply cells).asking
        requested hasRequest := by
  cases stage with
  | openChannel =>
      cases reply with
      | ok answer => exact continueInstall_asking connection _ _ _ _
      | error error => rfl
  | install channel step => exact continueInstall_asking connection channel deadline _ _
  | confirmSelect channel => cases reply <;> rfl
  | discard channel cause => rfl

private theorem setupExpired_asking (connection : Nat) (stage : Stage) :
    setupExpired plan now connection stage (cells.asking requested hasRequest) =
      (setupExpired plan now connection stage cells).asking requested hasRequest := by
  cases stage <;> rfl

/-- No reaction has regard to requests, but that of a ready session to a request. -/
theorem react_asking {point : Point} {event : Event}
    (other : (∀ session, point ≠ .ready session) ∨ event ≠ .reconnect) :
    react plan signals now (cells.asking requested hasRequest) point event =
      (react plan signals now cells point event).asking requested hasRequest := by
  cases point with
  | entry =>
      cases event with
      | begin => exact dial_asking
      | _ => rfl
  | releaseChannel channel connection? goal deadline =>
      cases event with
      | replied _ | expired =>
          cases connection? with
          | some connection => rfl
          | none => exact arrive_asking goal
      | _ => rfl
  | releaseConnection connection goal deadline =>
      cases event with
      | replied _ | expired => exact arrive_asking goal
      | _ => rfl
  | dial deadline =>
      cases event with
      | shutdown => exact finish_asking plan now none none
      | replied reply =>
          cases reply with
          | ok answer => exact setUp_asking answer.id
          | error error => rfl
      | _ => rfl
  | dialPause deadline =>
      cases event with
      | shutdown => exact finish_asking plan now none none
      | expired => exact dial_asking
      | _ => rfl
  | setup connection stage deadline =>
      cases event with
      | shutdown => exact finish_asking plan now none (some connection)
      | replied reply => exact setupReplied_asking connection stage deadline reply
      | expired => exact setupExpired_asking connection stage
      | _ => rfl
  | setupPause connection deadline =>
      cases event with
      | shutdown => exact finish_asking plan now none (some connection)
      | expired => exact setUp_asking connection
      | _ => rfl
  | ready session =>
      cases event with
      | shutdown => rfl
      | reconnect => exact absurd rfl (other.resolve_left fun away => away session rfl)
      | _ => rfl
  | closed => rfl

/-- A request for the session at hand has the same effect whenever it was made. -/
theorem react_asking_of_meant {session : Session} (meant : cells.requested = session.generation) :
    react plan signals now (cells.asking session.generation true) (.ready session) .reconnect =
      (react plan signals now cells (.ready session) .reconnect).asking session.generation
        false := by
  simp [react, leaveReady, meant, SupervisorCells.asking, Reaction.asking,
    SupervisorCells.setSession]

end

section

variable {plan : Plan} {run after : Run} {session : Session} {event : Event}
  {ending : Call → Mark} {requested generation : Nat} {hasRequest isPending : Bool}
  {named : List Nat}

namespace Run

private theorem react_asking
    (same : Supervisor.react plan run.signals run.now (run.cells.asking requested hasRequest)
        run.point event =
      (Supervisor.react plan run.signals run.now run.cells run.point event).asking requested
        isPending) :
    ((run.asking requested hasRequest named).endCall plan ending).react plan event =
      ((run.endCall plan ending).react plan event).asking requested isPending named := by
  have asked : Supervisor.react plan (run.asking requested hasRequest named).signals
      (run.asking requested hasRequest named).now (run.asking requested hasRequest named).cells
      (run.asking requested hasRequest named).point event =
        (Supervisor.react plan run.signals run.now run.cells run.point event).asking requested
          isPending := same
  rw [endCall_react_eq, endCall_react_eq, asked]
  rfl

private theorem setCells_asking (cells : SupervisorCells) :
    (run.asking requested hasRequest named).setCells (cells.asking requested hasRequest) =
      (run.setCells cells).asking requested hasRequest named := by
  have version : (cells.asking requested hasRequest).sessionVersion = cells.sessionVersion := rfl
  have former : (run.asking requested hasRequest named).cells.sessionVersion =
      run.cells.sessionVersion := rfl
  unfold setCells
  rw [version, former]
  split <;> rfl

private theorem makeCall_asking :
    (run.asking requested hasRequest named).makeCall plan =
      (run.makeCall plan).asking requested hasRequest named := by
  have same : (run.asking requested hasRequest named).point = run.point := rfl
  unfold makeCall
  rw [same]
  split <;> rfl

/-- A look that finds no request finds the same without any. -/
theorem interrupt?_asking {found : Option Event}
    (looked : run.point.interrupt? run.signals run.cells = found) (other : found ≠ some .reconnect) :
    run.point.interrupt? run.signals (run.cells.asking requested false) = found := by
  cases atPoint : run.point with
  | ready session =>
      rw [atPoint] at looked
      simp only [Point.interrupt?, SupervisorCells.asking] at looked ⊢
      split at looked
      · next down => simpa [down] using looked
      · next up =>
        simp only [up]
        cases pending : run.cells.hasRequest with
        | false => simpa [pending] using looked
        | true =>
            cases connection : (run.signals.connection session.connection).closed? with
            | some reason => simpa [connection] using looked
            | none =>
                cases channel : (run.signals.channel session.channel).closed? with
                | some reason => simpa [connection, channel] using looked
                | none => simp_all
  | _ =>
      rw [atPoint] at looked
      exact looked

end Run

/-- The loop looks at a request while it watches a session. -/
structure Run.LooksAtRequest (plan : Plan) (session : Session) (run after : Run) : Prop where
  watched : run.point = .ready session
  started : run.cells.handle ≠ .absent
  looks : run.looks = true
  found : run.point.interrupt? run.signals run.cells = some .reconnect
  met : after = run.meet plan .reconnect

/-- What a step has to do with requests: it makes one, it looks at one, or it has no
regard to any. -/
inductive Regards (plan : Plan) (run after : Run) : Prop where
  | asks (same : ∀ requested hasRequest named,
      after.asking requested hasRequest named = run.asking requested hasRequest named)
  | looks (session : Session) (look : run.LooksAtRequest plan session after)
  | goesOn (step : ∀ requested named,
      Step plan (run.asking requested false named) (after.asking requested false named))

private theorem Step.regards (step : Step plan run after) : Regards plan run after := by
  have reacts (ending : Call → Mark) (event : Event) (other : event ≠ .reconnect)
      (requested : Nat) (named : List Nat) :
      ((run.asking requested false named).endCall plan ending).react plan event =
        ((run.endCall plan ending).react plan event).asking requested false named :=
    Run.react_asking (Supervisor.react_asking (.inr other))
  cases step with
  | name | wake => exact .asks fun _ _ _ => rfl
  | pass milliseconds => exact .goesOn fun _ _ => .pass _ milliseconds
  | signal signals => exact .goesOn fun _ _ => .signal _ signals
  | start started => exact .goesOn fun _ _ => .start (SupervisorCells.start_asking started)
  | raise raised => exact .goesOn fun _ _ => .raise (SupervisorCells.raiseShutdown_asking raised)
  | take ending =>
      refine .goesOn fun requested named => ?_
      have taken : Step plan (run.asking requested false named) _ := .take ending
      have same : (run.asking requested false named).cells.takeHandle =
          run.cells.takeHandle.asking requested false := SupervisorCells.takeHandle_asking
      rw [same, Run.setCells_asking] at taken
      exact taken
  | poll waits => exact .goesOn fun _ _ => .poll waits
  | overlook looks none =>
      refine .goesOn fun requested named => ?_
      have unasked : run.point.interrupt? run.signals (run.cells.asking requested false) =
          Option.none := Run.interrupt?_asking none nofun
      exact .overlook looks unasked
  | call idle overlooked =>
      refine .goesOn fun requested named => ?_
      rw [← Run.makeCall_asking]
      exact .call idle overlooked
  | @look event started looks found =>
      by_cases isLook : event = .reconnect
      · subst isLook
        cases Point.finds_of_interrupt? found with
        | asked watched => exact .looks _ ⟨watched, started, looks, found, rfl⟩
      · refine .goesOn fun requested named => ?_
        have unasked : run.point.interrupt? run.signals (run.cells.asking requested false) =
            some event := Run.interrupt?_asking found (by simpa using isLook)
        have same : (run.asking requested false named).meet plan event =
            (run.meet plan event).asking requested false named :=
          reacts .abandoned event isLook requested named
        exact same ▸ .look started looks unasked
  | @reply call reply calling overlooked pending answers =>
      refine .goesOn fun requested named => ?_
      have same : (run.asking requested false named).receive plan reply =
          (run.receive plan reply).asking requested false named :=
        reacts (.returned · reply) (.replied reply) nofun requested named
      exact same ▸ .reply calling overlooked pending answers
  | expire waits overlooked limit due =>
      refine .goesOn fun requested named => ?_
      have same : (run.asking requested false named).timeOut plan =
          (run.timeOut plan).asking requested false named :=
        reacts .cutOff .expired nofun requested named
      exact same ▸ .expire waits overlooked limit due

/-! ## Requests for the session at hand -/

/-- A step of a run in which every request is for the session that is watched, and is
met at once. -/
inductive Heeds (plan : Plan) : Run → Run → Prop where
  | goOn {run after : Run} (step : Step plan run after) (unnamed : after.named = run.named)
      (quiet : after.cells.hasRequest = false) : Heeds plan run after
  | heed {run after : Run} {session : Session} (watched : run.point = .ready session)
      (look : Step plan (run.name session.generation).wake after)
      (met : after.cells.hasRequest = false) : Heeds plan run after

namespace Run

private theorem generation_pos (reached : Reachable plan run)
    (held : run.cells.session = some session) :
    0 < session.generation := by
  induction reached with
  | refl => cases held
  | tail before step ih =>
      have coherent := isCoherent_of_reachable before
      rcases step.rests_or_reacts coherent with rests | ⟨event, history, rfl⟩
      · exact ih (rests.session ▸ held)
      · simp only [react, cells_moveTo, cells_setCells] at held
        rcases coherent.react_moves plan event with ⟨watched, -, -, move⟩ | ⟨-, move⟩
        · cases move with
          | leave state passed version hasRequest newer cleared => simp [cleared] at held
          | stay hasRequest same =>
              rw [same] at held
              exact ih held
        · cases move with
          | keep state passed same =>
              rw [same] at held
              exact ih held
          | withdraw state passed version newer cleared => simp [cleared] at held
          | publish published passed next stored =>
              rw [stored] at held
              cases held
              omega

/-- The generation of the session at hand was asked for only if a request named it. -/
theorem generation_mem_named (reached : Reachable plan run) (watched : run.point = .ready session)
    (meant : run.cells.requested = session.generation) : session.generation ∈ run.named := by
  have coherent := isCoherent_of_reachable reached
  have positive := generation_pos reached ((coherent.current session).mp watched)
  have last := coherent.requested
  cases latest : run.named.getLast? with
  | none =>
      rw [latest, meant] at last
      exact absurd last positive.ne'
  | some generation =>
      rw [latest, meant] at last
      rw [last]
      exact List.mem_of_getLast? latest

namespace LooksAtRequest

theorem pending (look : run.LooksAtRequest plan session after) :
    run.cells.hasRequest = true := by
  cases Point.finds_of_interrupt? look.found with
  | asked _ pending => exact pending

/-- A request for another generation is dropped, and that is all. -/
theorem eq_of_stale (look : run.LooksAtRequest plan session after)
    (reached : Reachable plan run) (stale : run.cells.requested ≠ session.generation) :
    after = { run with cells := { run.cells with hasRequest := false } } := by
  obtain ⟨watched, -, looks, -, rfl⟩ := look
  have idle : run.isCalling = false := isCalling_eq_false reached (by rw [watched, Point.call?])
  have same : Supervisor.react plan run.signals run.now run.cells run.point .reconnect =
      { cells := { run.cells with hasRequest := false }, next := .await (.ready session) } := by
    rw [watched]
    simp [Supervisor.react, leaveReady, stale]
  rw [meet, endCall_react_eq, same]
  simp [Reaction.entries, Next.entries, endEntries, Next.point, Next.looks, Next.calls, idle,
    watched, looks]

/-- A request for the session at hand could as well have been made just now. -/
theorem heeds {requested : Nat} {named : List Nat} (look : run.LooksAtRequest plan session after)
    (meant : run.cells.requested = session.generation) :
    Heeds plan (run.asking requested false named)
      (after.asking session.generation false (named ++ [session.generation])) := by
  have pending := look.pending
  obtain ⟨watched, started, looks, found, rfl⟩ := look
  let asked := run.asking session.generation true (named ++ [session.generation])
  have again : asked.point.interrupt? asked.signals asked.cells = some .reconnect := by
    simpa [asked, asking, SupervisorCells.asking, watched, Point.interrupt?, pending] using found
  have same : asked.meet plan .reconnect =
      (run.meet plan .reconnect).asking session.generation false
        (named ++ [session.generation]) := by
    refine react_asking ?_
    rw [watched]
    exact react_asking_of_meant meant
  have step : Step plan asked (asked.meet plan .reconnect) := .look started looks again
  rw [same] at step
  exact .heed watched step rfl

end LooksAtRequest

/-- But for its requests, a run is one that heeds every request that it gets. -/
theorem exists_heeds (reached : Reachable plan run) :
    ∃ requested named, Relation.ReflTransGen (Heeds plan) {} (run.asking requested false named) ∧
      named ⊆ run.named := by
  induction reached with
  | refl => exact ⟨0, [], .refl, List.nil_subset _⟩
  | @tail former run before step ih =>
      obtain ⟨requested, named, heeding, known⟩ := ih
      have kept := step.named_prefix.subset
      have told : named ⊆ run.named := List.Subset.trans known kept
      cases step.regards with
      | asks same => exact ⟨requested, named, same _ _ _ ▸ heeding, told⟩
      | goesOn goesOn =>
          exact ⟨requested, named, heeding.tail (.goOn (goesOn _ _) rfl rfl), told⟩
      | looks session look =>
          by_cases meant : former.cells.requested = session.generation
          · refine ⟨session.generation, named ++ [session.generation],
              heeding.tail (look.heeds meant), ?_⟩
            have heeded := generation_mem_named before look.watched meant
            simpa using ⟨told, kept heeded⟩
          · rw [look.eq_of_stale before meant]
            exact ⟨requested, named, heeding, known⟩

/-- What becomes of requests, however they are made. -/
structure HeedsMeant (plan : Plan) (run : Run) : Prop where
  meant : ∀ session after, run.LooksAtRequest plan session after → after.point ≠ .ready session →
    run.cells.requested = session.generation ∧ session.generation ∈ run.named
  ignored : ∀ session after, run.LooksAtRequest plan session after →
    run.cells.requested ≠ session.generation →
      after = { run with cells := { run.cells with hasRequest := false } }
  /-- But for its requests, the run is one in which all were made for the session at
  hand, and none but generations that were named. -/
  twin : ∃ requested named,
    Relation.ReflTransGen (Heeds plan) {} (run.asking requested false named) ∧ named ⊆ run.named

theorem heedsMeant_of_reachable (reached : Reachable plan run) : run.HeedsMeant plan := by
  constructor
  · intro session after look left
    have meant : run.cells.requested = session.generation := by
      by_contra stale
      rw [look.eq_of_stale reached stale] at left
      exact left look.watched
    exact ⟨meant, generation_mem_named reached look.watched meant⟩
  · intro session after look stale
    exact look.eq_of_stale reached stale
  · exact exists_heeds reached

/-- The first session was asked to be left, and was lost before the loop looked. -/
def oneQueueNagged : Run :=
  oneQueueReplaced.asking 1 true [1]

private theorem reachable_oneQueueNagged : Reachable oneQueue oneQueueNagged := by
  have asked : Reachable oneQueue (oneQueueReady.name 1).wake :=
    (reachable_oneQueueReady.tail (.name _ 1)).tail (.wake _)
  have lost := asked.tail (.signal _ oneQueueLost.signals)
  have left := lost.tail (.look (by decide) rfl rfl)
  have closed := left.tail (.answered .done rfl rfl rfl rfl)
  have opening := (closed.tail (.overlook rfl rfl)).tail (.call rfl rfl)
  have opened := opening.tail (.answered (.channel 1) rfl rfl rfl rfl)
  exact opened.tail (.answered (.found true) rfl rfl rfl rfl)

theorem heedsMeant_nagged :
    oneQueueNagged.named = [1] ∧
      oneQueueNagged.LooksAtRequest oneQueue { generation := 2, connection := 0, channel := 1 }
        (oneQueueNagged.meet oneQueue .reconnect) ∧
      Reachable oneQueue oneQueueNagged ∧ oneQueueNagged.HeedsMeant oneQueue :=
  ⟨rfl, ⟨rfl, by decide, rfl, rfl, rfl⟩, reachable_oneQueueNagged,
    heedsMeant_of_reachable reachable_oneQueueNagged⟩

end Run

end

end Supervisor

end AmqpClient
