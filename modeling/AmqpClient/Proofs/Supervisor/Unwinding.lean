import AmqpClient.Proofs.Supervisor.Poll
import AmqpClient.Proofs.Supervisor.Release

/-!
# One poll after a shutdown

Once a shutdown was requested, all that the loop still calls for is the end of the
channel and of the connection that it holds. A poll does a part of it, and leaves the
loop waiting for the end of a release, or closed.
-/

set_option autoImplicit false

namespace AmqpClient.Supervisor

/-! ## What is left to be done -/

namespace Point

/-- The calls that are still to come if the loop has to end. -/
def closings : Point → List Call
  | .ready session => [.closeChannel session.channel, .closeConnection session.connection]
  | .releaseChannel _ connection? goal _ =>
    (connection?.or goal.connection?).toList.map .closeConnection
  | .setup connection .. | .setupPause connection _ => [.closeConnection connection]
  | .entry | .releaseConnection .. | .dial _ | .dialPause _ | .closed => []

/-- How many reactions it takes at most from here to the end. -/
def rank : Point → Nat
  | .closed => 0
  | .entry | .dial _ | .dialPause _ | .releaseConnection .. => 1
  | .setup .. => 2
  | .setupPause .. | .ready _ => 3
  | .releaseChannel _ connection? _ _ => if connection?.isSome then 2 else 3

def isRelease : Point → Bool
  | .releaseChannel .. | .releaseConnection .. => true
  | _ => false

theorem rank_le (point : Point) : point.rank ≤ 3 := by
  cases point <;> simp [rank]
  split <;> omega

theorem eq_closed_of_rank {point : Point} (atEnd : point.rank = 0) : point = .closed := by
  cases point <;> simp [rank] at atEnd ⊢
  split at atEnd <;> cases atEnd

theorem isBusy_of_isRelease {point : Point} (release : point.isRelease = true) :
    point.isBusy = true := by
  cases point <;> first | rfl | cases release

theorem exists_call (plan : Plan) {point : Point} (release : point.isRelease = true) :
    ∃ call, point.call? plan = some call ∧ call.closes = true := by
  cases point with
  | releaseChannel | releaseConnection => exact ⟨_, rfl, rfl⟩
  | _ => cases release

/-- No interrupt is looked at here: something is released, or the loop has ended. -/
def IsUninterrupted (point : Point) : Prop :=
  point.isRelease = true ∨ point = .closed

theorem exists_deadline {point : Point} (release : point.isRelease = true) :
    ∃ deadline, point.deadline? = some deadline := by
  cases point with
  | releaseChannel | releaseConnection => exact ⟨_, rfl⟩
  | _ => cases release

end Point

/-- The events that may meet the loop once a shutdown was requested: the shutdown
itself, the end of a pause, and the end of a call that releases something. -/
inductive Winds : Point → Event → Prop where
  | begin : Winds .entry .begin
  | shutdown {point : Point} (awake : point ≠ .entry) (held : point.isRelease = false)
      (isOpen : point ≠ .closed) : Winds point .shutdown
  | paused {point : Point} (pause : point.isPause = true) : Winds point .expired
  | replied {point : Point} (release : point.isRelease = true) (reply : Reply) :
      Winds point (.replied reply)
  | expired {point : Point} (release : point.isRelease = true) : Winds point .expired

theorem winds_of_interrupt? {signals : Signals} {cells : SupervisorCells} {point : Point}
    {event : Event} (isShutDown : cells.isShutDown = true)
    (found : point.interrupt? signals cells = some event) : Winds point event := by
  cases point with
  | entry =>
      cases found
      exact .begin
  | releaseChannel | releaseConnection | closed => cases found
  | dial | dialPause | setup | setupPause | ready =>
      simp only [Point.interrupt?, isShutDown, if_true, Option.some.injEq] at found
      subst found
      exact .shutdown (by simp) rfl (by simp)

private theorem Point.isUninterrupted_of_interrupt? {signals : Signals} {cells : SupervisorCells}
    {point : Point} (isShutDown : cells.isShutDown = true)
    (none : point.interrupt? signals cells = none) : point.IsUninterrupted := by
  cases point with
  | releaseChannel | releaseConnection => exact .inl rfl
  | closed => exact .inr rfl
  | _ => simp [Point.interrupt?, isShutDown] at none

/-- What is called on the way to the next point. -/
def Next.issues (plan : Plan) : Next → List Call
  | .await _ => []
  | .proceed point => (point.call? plan).toList

/-- The loop goes on only where it looks for a shutdown, or where none may stop it. -/
def Point.IsWatched (looks : Bool) (point : Point) : Prop :=
  looks = true ∨ point.IsUninterrupted

/-- A reaction does a part of what is left to be done, and nothing else. -/
structure Unwinds (plan : Plan) (cells : SupervisorCells) (point : Point) (reaction : Reaction) :
    Prop where
  calls : reaction.next.issues plan ++ reaction.next.point.closings = point.closings
  nearer : reaction.next.point.rank < point.rank
  watched : reaction.next.point.IsWatched reaction.next.looks
  quiet : reaction.cells.session = none ∨
    reaction.cells.sessionVersion = cells.sessionVersion

section

variable {plan : Plan} {signals : Signals} {now : Nat} {cells : SupervisorCells} {point : Point}
  {event : Event}

private theorem finish_unwinds (plan : Plan) (now : Nat) (connection? : Option Nat)
    (left : point.closings = connection?.toList.map .closeConnection)
    (rank : connection?.toList.length < point.rank) :
    Unwinds plan cells point (finish plan now none connection? cells) := by
  cases connection? with
  | none => exact ⟨left.symm, rank, .inr (.inr rfl), .inl rfl⟩
  | some connection => exact ⟨left.symm, rank, .inr (.inl rfl), .inl rfl⟩

private theorem dial_unwinds (isShutDown : cells.isShutDown = true) (left : point.closings = [])
    (rank : 0 < point.rank) : Unwinds plan cells point (dial plan now cells) := by
  unfold dial
  rw [if_pos isShutDown]
  exact finish_unwinds plan now none left rank

private theorem setUp_unwinds {connection : Nat}
    (left : point.closings = [.closeConnection connection])
    (rank : 2 < point.rank) :
    Unwinds plan cells point (setUp plan signals now connection cells) := by
  unfold setUp
  dsimp only
  split
  · exact ⟨left.symm, Nat.lt_of_succ_lt rank, .inr (.inl rfl), .inr rfl⟩
  · -- The setup is begun only to be given up at the next look.
    exact ⟨left.symm, rank, .inl rfl, .inr rfl⟩

private theorem arrive_unwinds (goal : Goal) (isShutDown : cells.isShutDown = true)
    (left : point.closings = goal.connection?.toList.map .closeConnection)
    (rank : 2 * goal.connection?.toList.length < point.rank) :
    Unwinds plan cells point (arrive plan signals now goal cells) := by
  cases goal with
  | dial => exact dial_unwinds isShutDown left rank
  | setup connection => exact setUp_unwinds left rank
  | finish => exact ⟨left.symm, rank, .inr (.inr rfl), .inr rfl⟩

private theorem release_unwinds (isShutDown : cells.isShutDown = true) (fits : point.FitsGoal)
    (release : point.isRelease = true)
    (ended : event = .expired ∨ ∃ reply, event = .replied reply) :
    Unwinds plan cells point (react plan signals now cells point event) := by
  cases point with
  | releaseChannel channel connection? goal deadline =>
      cases connection? with
      | some connection =>
          rcases ended with rfl | ⟨reply, rfl⟩ <;>
            exact ⟨rfl, Nat.one_lt_two, .inr (.inl rfl), .inr rfl⟩
      | none =>
          have rank : 2 * goal.connection?.toList.length < 3 := by
            cases goal <;> simp [Goal.connection?]
          rcases ended with rfl | ⟨reply, rfl⟩ <;> exact arrive_unwinds goal isShutDown rfl rank
  | releaseConnection connection goal deadline =>
      have gone : goal.connection? = none := fits
      have left : (Point.releaseConnection connection goal deadline).closings =
          goal.connection?.toList.map .closeConnection := by
        rw [gone]
        rfl
      have rank : 2 * goal.connection?.toList.length < 1 := by simp [gone]
      rcases ended with rfl | ⟨reply, rfl⟩ <;> exact arrive_unwinds goal isShutDown left rank
  | _ => cases release

theorem react_unwinds (isShutDown : cells.isShutDown = true) (fits : point.FitsGoal)
    (winds : Winds point event) :
    Unwinds plan cells point (react plan signals now cells point event) := by
  cases winds with
  | begin => exact dial_unwinds isShutDown rfl Nat.one_pos
  | shutdown awake held isOpen =>
      cases point with
      | entry => exact absurd rfl awake
      | dial deadline | dialPause deadline => exact finish_unwinds plan now none rfl Nat.one_pos
      | setup connection stage deadline =>
          exact finish_unwinds plan now (some connection) rfl Nat.one_lt_two
      | setupPause connection deadline =>
          exact finish_unwinds plan now (some connection) rfl (Nat.lt_succ_of_lt Nat.one_lt_two)
      | ready session => exact ⟨rfl, Nat.lt_succ_self 2, .inr (.inl rfl), .inl rfl⟩
      | closed => exact absurd rfl isOpen
      | releaseChannel | releaseConnection => cases held
  | paused pause =>
      cases point with
      | dialPause deadline => exact dial_unwinds isShutDown rfl Nat.one_pos
      | setupPause connection deadline => exact setUp_unwinds rfl (Nat.lt_succ_self 2)
      | _ => cases pause
  | replied release reply => exact release_unwinds isShutDown fits release (.inr ⟨reply, rfl⟩)
  | expired release => exact release_unwinds isShutDown fits release (.inl rfl)

end

/-! ## One poll -/

def Mark.issued? : Mark → Option Call
  | .called call => some call
  | _ => none

def issuedCalls (entries : List Entry) : List Call :=
  entries.filterMap (·.mark.issued?)

theorem issuedCalls_append (first second : List Entry) :
    issuedCalls (first ++ second) = issuedCalls first ++ issuedCalls second :=
  List.filterMap_append

theorem issuedCalls_entries (plan : Plan) (now : Nat) (cells : SupervisorCells)
    (reaction : Reaction) :
    issuedCalls (reaction.entries plan now cells) = reaction.next.issues plan := by
  have written : issuedCalls (if reaction.cells.sessionVersion = cells.sessionVersion then []
      else [{ time := now, mark := .wrote reaction.cells.session }]) = [] := by
    split <;> rfl
  rw [Reaction.entries, issuedCalls_append, written, List.nil_append]
  cases reaction.next with
  | await point => rfl
  | proceed point =>
      cases called : point.call? plan <;>
        simp [Next.entries, Next.issues, issuedCalls, Mark.issued?, called]

theorem Run.issuedCalls_endEntries {plan : Plan} {run : Run} {ending : Call → Mark}
    (ends : ∀ call, (ending call).issued? = none) :
    issuedCalls (run.endEntries plan ending) = [] := by
  unfold Run.endEntries
  split
  · cases run.point.call? plan <;> simp [issuedCalls, ends]
  · rfl

private theorem stores_entries {plan : Plan} {cells : SupervisorCells} {reaction : Reaction}
    (now : Nat)
    (quiet : reaction.cells.session = none ∨ reaction.cells.sessionVersion = cells.sessionVersion) :
    ∀ entry ∈ reaction.entries plan now cells, entry.stores = false := by
  intro entry told
  rcases List.mem_append.mp told with written | called
  · rcases quiet with empty | same
    · split at written
      · cases written
      · cases List.mem_singleton.mp written
        simp [Entry.stores, empty, Mark.stores]
    · simp [same] at written
  · cases next : reaction.next with
    | await point => simp [next, Next.entries] at called
    | proceed point =>
        rw [next] at called
        obtain ⟨call, -, rfl⟩ := List.mem_map.mp called
        rfl

/-- What happened since is a part of what was left to be done. -/
structure Run.Recedes (run after : Run) : Prop where
  calls : ∃ more, after.history = run.history ++ more ∧
    (∀ entry ∈ more, entry.stores = false) ∧
    issuedCalls more ++ after.point.closings = run.point.closings
  nearer : after.point = run.point ∨ after.point.rank < run.point.rank

section

variable {plan : Plan} {run after : Run} {event : Event}

namespace Run.Recedes

theorem refl (run : Run) : run.Recedes run :=
  ⟨⟨[], by simp [issuedCalls]⟩, .inl rfl⟩

theorem trans {middle : Run} (early : run.Recedes middle) (late : middle.Recedes after) :
    run.Recedes after := by
  obtain ⟨⟨first, told, quiet, left⟩, nearer⟩ := early
  obtain ⟨⟨second, toldOn, quietOn, leftOn⟩, nearerOn⟩ := late
  refine ⟨⟨first ++ second, by simp [toldOn, told], ?_, ?_⟩, ?_⟩
  · simpa [or_imp, forall_and] using ⟨quiet, quietOn⟩
  · rw [issuedCalls_append, List.append_assoc, leftOn, left]
  · rcases nearer with same | nearer
    · exact same ▸ nearerOn
    · refine .inr ?_
      rcases nearerOn with same | nearerOn
      · exact same ▸ nearer
      · exact nearerOn.trans nearer

theorem rank_le (recedes : run.Recedes after) : after.point.rank ≤ run.point.rank := by
  rcases recedes.nearer with same | nearer
  · rw [same]
  · exact nearer.le

theorem of_eq (history : after.history = run.history) (point : after.point = run.point) :
    run.Recedes after :=
  ⟨⟨[], by simp [history, point, issuedCalls]⟩, .inl point⟩

end Run.Recedes

theorem Unwinds.recedes {ending : Call → Mark}
    (unwinds : Unwinds plan run.cells run.point
      (react plan run.signals run.now run.cells run.point event))
    (ends : ∀ call, (ending call).issued? = none ∧ (ending call).stores = false) :
    run.Recedes ((run.endCall plan ending).react plan event) := by
  rw [Run.endCall_react_eq]
  generalize react plan run.signals run.now run.cells run.point event = reaction at unwinds
  have ended : ∀ entry ∈ run.endEntries plan ending, entry.stores = false := by
    intro entry told
    unfold Run.endEntries at told
    split at told
    · obtain ⟨call, -, rfl⟩ := List.mem_map.mp told
      exact (ends call).2
    · cases told
  have issued : issuedCalls (run.endEntries plan ending) = [] :=
    Run.issuedCalls_endEntries fun call => (ends call).1
  refine ⟨⟨_, rfl, ?_, ?_⟩, .inr unwinds.nearer⟩
  · intro entry told
    rcases List.mem_append.mp told with told | told
    · exact ended entry told
    · exact stores_entries run.now unwinds.quiet entry told
  · rw [issuedCalls_append, issued, List.nil_append, issuedCalls_entries]
    exact unwinds.calls

/-- While the loop is watched, each piece of its work leaves everything as it is, turns to
the release that is under way, or is the reaction to an event that winds it down. -/
theorem Work.winds (work : Work plan run after) (isShutDown : run.cells.isShutDown = true)
    (watched : run.point.IsWatched run.looks)
    (busy : run.point.isBusy = true → run.isCalling = true) :
    after = run ∨ (after = run.turn ∧ run.turn.point.IsWatched run.turn.looks) ∨
      ∃ ending event, after = (run.endCall plan ending).react plan event ∧
        Winds run.point event ∧
        ∀ call, (ending call).issued? = none ∧ (ending call).stores = false := by
  have unlooked (overlooked : run.looks = false) : run.point.IsUninterrupted :=
    watched.resolve_left (by simp [overlooked])
  cases work with
  | look started looks found =>
      exact .inr (.inr ⟨_, _, rfl, winds_of_interrupt? isShutDown found, fun _ => ⟨rfl, rfl⟩⟩)
  | overlook looks none =>
      exact .inr (.inl ⟨rfl, .inr (Point.isUninterrupted_of_interrupt? isShutDown none)⟩)
  | call idle overlooked =>
      rcases unlooked overlooked with release | atEnd
      · exact absurd (idle.symm.trans (busy (Point.isBusy_of_isRelease release))) Bool.false_ne_true
      · exact .inl (by simp [Run.makeCall, atEnd, Point.call?])
  | reply calling overlooked pending answers =>
      rcases unlooked overlooked with release | atEnd
      · exact .inr (.inr ⟨_, _, rfl, .replied release _, fun _ => ⟨rfl, rfl⟩⟩)
      · simp [atEnd, Point.call?] at pending
  | expire waits overlooked limit due =>
      refine .inr (.inr ⟨_, _, rfl, ?_, fun _ => ⟨rfl, rfl⟩⟩)
      rcases overlooked with overlooked | pause
      · rcases unlooked overlooked with release | atEnd
        · exact .expired release
        · simp [atEnd, Point.deadline?] at limit
      · exact .paused pause

theorem Step.calling (step : Step plan run after)
    (calling : run.isCalling = true → (run.point.call? plan).isSome = true) :
    after.isCalling = true → (after.point.call? plan).isSome = true := by
  have reacts (ending : Call → Mark) (event : Event) :
      ((run.endCall plan ending).react plan event).isCalling = true →
        (((run.endCall plan ending).react plan event).point.call? plan).isSome = true := by
    rw [Run.endCall_react_eq]
    generalize react plan run.signals run.now run.cells run.point event = reaction
    cases next : reaction.next <;> simp [next, Next.calls, Next.point]
  cases step with
  | pass | signal | start | raise | name | wake | poll | overlook => exact calling
  | take =>
      obtain ⟨history, same⟩ := run.setCells_eq run.cells.takeHandle
      rw [same]
      exact calling
  | call idle =>
      rw [Run.isCalling_makeCall idle, Run.point_makeCall]
      exact id
  | look | reply | expire => exact reacts _ _

/-- A call is under way only where there is one to be made. -/
theorem Run.calling_of_reachable (reached : Reachable plan run) (calling : run.isCalling = true) :
    (run.point.call? plan).isSome = true := by
  induction reached with
  | refl => cases calling
  | tail _ step ih => exact step.calling ih calling

theorem Run.isCalling_eq_false (reached : Reachable plan run)
    (quiet : run.point.call? plan = none) : run.isCalling = false := by
  by_contra calling
  have pending := calling_of_reachable reached (by simpa using calling)
  simp [quiet] at pending

/-- The loop at work, after a shutdown. -/
structure Run.IsFinishing (plan : Plan) (run : Run) : Prop where
  reached : Reachable plan run
  isShutDown : run.cells.isShutDown = true
  started : run.cells.handle ≠ .absent
  watched : run.point.IsWatched run.looks
  calling : run.isCalling = true → (run.point.call? plan).isSome = true

namespace Run.IsFinishing

theorem work (finishing : run.IsFinishing plan) (work : Work plan run after) :
    after.IsFinishing plan ∧ run.Recedes after := by
  have callers := (Surrounds.work work).callers
  obtain ⟨ledger, -, agrees⟩ := isKept_of_reachable finishing.reached
  obtain ⟨watched, recedes⟩ : after.point.IsWatched after.looks ∧ run.Recedes after := by
    rcases work.winds finishing.isShutDown finishing.watched agrees.busy with
      rfl | ⟨rfl, turned⟩ | ⟨ending, event, rfl, winds, ends⟩
    · exact ⟨finishing.watched, .refl after⟩
    · exact ⟨turned, .of_eq rfl rfl⟩
    · have unwinds : Unwinds plan run.cells run.point
          (Supervisor.react plan run.signals run.now run.cells run.point event) :=
        react_unwinds finishing.isShutDown agrees.fits winds
      refine ⟨?_, unwinds.recedes ends⟩
      rw [endCall_react_eq]
      exact unwinds.watched
  exact ⟨⟨finishing.reached.tail work.step, callers.isShutDown.trans finishing.isShutDown,
    callers.handle ▸ finishing.started, watched, work.step.calling finishing.calling⟩, recedes⟩

theorem works (finishing : run.IsFinishing plan)
    (works : Relation.ReflTransGen (Work plan) run after) :
    after.IsFinishing plan ∧ run.Recedes after := by
  induction works with
  | refl => exact ⟨finishing, .refl run⟩
  | tail _ work ih =>
      obtain ⟨finishing, recedes⟩ := ih
      obtain ⟨finishing, further⟩ := finishing.work work
      exact ⟨finishing, recedes.trans further⟩

theorem of_waits (reached : Reachable plan run) (isShutDown : run.cells.isShutDown = true)
    (started : run.cells.handle ≠ .absent) (waits : run.IsWaiting plan) :
    ({ run with looks := true } : Run).IsFinishing plan where
  reached := reached.tail (.poll waits)
  isShutDown := isShutDown
  started := started
  watched := .inl rfl
  calling calling := waits.symm.trans calling

end Run.IsFinishing

/-- Once it was polled, the loop waits for the end of a release, or has ended. -/
theorem Poll.recedes (poll : Poll plan run after) (reached : Reachable plan run)
    (isShutDown : run.cells.isShutDown = true) :
    run.Recedes after ∧ after.point.IsUninterrupted := by
  have started := poll.started (Run.isCoherent_of_reachable reached)
  obtain ⟨finishing, calls, nearer⟩ :=
    (Run.IsFinishing.of_waits reached isShutDown started poll.waits).works poll.works
  exact ⟨⟨calls, nearer⟩, finishing.watched.resolve_left (by simp [poll.suspends.looked])⟩

/-- All that is left to callers after a shutdown leaves the loop where it is. -/
theorem Turn.poll_or_rests (turn : Turn plan run after) (isShutDown : run.cells.isShutDown = true) :
    Poll plan run after ∨ after.point = run.point ∧ after.history = run.history ∧
      after.cells.isShutDown = true := by
  cases turn with
  | poll poll => exact .inl poll
  | pass | signal | request => exact .inr ⟨rfl, rfl, isShutDown⟩
  | start started =>
      obtain ⟨up, -⟩ := SupervisorCells.eq_of_start started
      cases up.symm.trans isShutDown
  | shutDown begun =>
      obtain ⟨up, -⟩ := SupervisorCells.eq_of_beginShutdown begun
      cases up.symm.trans isShutDown

theorem Turn.isShutDown (turn : Turn plan run after) (isShutDown : run.cells.isShutDown = true) :
    after.cells.isShutDown = true := by
  rcases turn.poll_or_rests isShutDown with poll | ⟨-, -, kept⟩
  · exact poll.surrounds.callers.isShutDown.trans isShutDown
  · exact kept

theorem Turn.recedes (turn : Turn plan run after) (reached : Reachable plan run)
    (isShutDown : run.cells.isShutDown = true) : run.Recedes after := by
  rcases turn.poll_or_rests isShutDown with poll | ⟨point, history, -⟩
  · exact (poll.recedes reached isShutDown).1
  · exact .of_eq history point

end

end AmqpClient.Supervisor
