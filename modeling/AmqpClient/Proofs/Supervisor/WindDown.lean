import AmqpClient.Proofs.Supervisor.Unwinding

/-!
# Winding down

After a shutdown, the end of one channel and that of one connection are all that is
still called for, poll after poll. Each of the two calls is given up at its limit, so
that a few polls close the supervisor whatever the broker does.
-/

set_option autoImplicit false

namespace AmqpClient.Supervisor

/-! ## Schedules -/

def Run.underWay? (plan : Plan) (run : Run) : Option Call :=
  if run.isCalling then run.point.call? plan else none

/-- The loop and its callers, between two polls, after the supervisor was shut down. -/
structure Run.IsStopping (plan : Plan) (run : Run) : Prop where
  rest : run.IsAtRest plan
  reached : Reachable plan run
  isShutDown : run.cells.isShutDown = true

/-- No release is under way that is still within its limit. -/
def Run.IsDue (run : Run) : Prop :=
  ∀ deadline, run.point.isRelease = true → run.point.deadline? = some deadline →
    deadline ≤ run.now

/-- A schedule in which the loop is polled so many times when it is due. -/
inductive PolledDuly (plan : Plan) : Nat → Run → Run → Prop where
  | nothing (run : Run) : PolledDuly plan 0 run run
  | turn {count : Nat} {run middle after : Run} :
      Turn plan run middle → PolledDuly plan count middle after → PolledDuly plan count run after
  | poll {count : Nat} {run middle after : Run} :
      run.IsDue → Poll plan run middle → PolledDuly plan count middle after →
      PolledDuly plan (count + 1) run after

section

variable {plan : Plan} {run after : Run} {call : Call}

private theorem Point.closings_sublist (point : Point) :
    ∃ channel connection,
      point.closings.Sublist [.closeChannel channel, .closeConnection connection] := by
  cases point with
  | ready session => exact ⟨_, _, .refl _⟩
  | setup connection | setupPause connection => exact ⟨0, _, List.sublist_cons_self _ _⟩
  | releaseChannel channel connection? goal deadline =>
      cases held : connection?.or goal.connection? with
      | none => exact ⟨0, 0, by simp [closings, held]⟩
      | some connection => exact ⟨0, connection, by simp [closings, held]⟩
  | _ => exact ⟨0, 0, List.nil_sublist _⟩

/-- What is under way and what is left are at most the end of a channel and then that of
a connection. -/
theorem Point.underWay_closings (plan : Plan) (point : Point) (isCalling : Bool) :
    ∃ channel connection,
      (((if isCalling then point.call? plan else none).filter (·.closes)).toList ++
        point.closings).Sublist [.closeChannel channel, .closeConnection connection] := by
  cases under : (if isCalling then point.call? plan else none).filter (·.closes) with
  | none => exact point.closings_sublist
  | some call =>
      obtain ⟨calling, closes⟩ := Option.filter_eq_some_iff.mp under
      obtain ⟨-, pending⟩ := Option.ite_none_right_eq_some.mp calling
      cases point with
      | releaseChannel channel connection? goal deadline =>
          cases pending
          cases held : connection?.or goal.connection? with
          | none => exact ⟨channel, 0, by simp [closings, held]⟩
          | some connection => exact ⟨channel, connection, by simp [closings, held]⟩
      | releaseConnection connection goal deadline =>
          cases pending
          exact ⟨0, connection, List.sublist_cons_self _ _⟩
      | setup connection stage deadline =>
          cases stage with
          | discard channel cause =>
              cases pending
              exact ⟨channel, connection, .refl _⟩
          | install channel step =>
              cases pending
              rw [Call.closes_of_setUp? (setUp?_call plan.topology channel step)] at closes
              cases closes
          | openChannel | confirmSelect =>
              cases pending
              cases closes
      | dial =>
          cases pending
          cases closes
      | _ => cases pending

namespace Run.IsStopping

theorem turn (stopping : run.IsStopping plan) (turn : Turn plan run after) :
    after.IsStopping plan where
  rest := stopping.rest.turn (isCoherent_of_reachable stopping.reached) turn
  reached := stopping.reached.trans (turn.steps stopping.rest)
  isShutDown := turn.isShutDown stopping.isShutDown

theorem turns (stopping : run.IsStopping plan) (turns : Turns plan run after) :
    after.IsStopping plan ∧ run.Recedes after := by
  induction turns with
  | refl => exact ⟨stopping, .refl run⟩
  | tail _ turn ih =>
      obtain ⟨stopping, recedes⟩ := ih
      exact ⟨stopping.turn turn, recedes.trans (turn.recedes stopping.reached stopping.isShutDown)⟩

private theorem poll_nearer (stopping : run.IsStopping plan) (poll : Poll plan run after)
    (due : run.IsDue) : after.point.rank ≤ run.point.rank - 1 := by
  obtain ⟨recedes, arrived⟩ := poll.recedes stopping.reached stopping.isShutDown
  rcases recedes.nearer with same | nearer
  · rcases arrived with release | atEnd
    · -- A release that is under way when it is due is not what the loop waits for again.
      obtain ⟨deadline, limit⟩ := Point.exists_deadline release
      have early := poll.suspends.early deadline limit
      rw [poll.surrounds.now] at early
      rw [same] at release limit
      exact absurd (due deadline release limit) (Nat.not_le.mpr early)
    · simp [atEnd, Point.rank]
  · omega

private theorem polledDuly {count : Nat} (stopping : run.IsStopping plan)
    (schedule : PolledDuly plan count run after) :
    after.IsStopping plan ∧ after.point.rank ≤ run.point.rank - count := by
  induction schedule with
  | nothing => exact ⟨stopping, le_rfl⟩
  | turn turn _ ih =>
      obtain ⟨later, nearer⟩ := ih (stopping.turn turn)
      have kept := (turn.recedes stopping.reached stopping.isShutDown).rank_le
      exact ⟨later, nearer.trans (Nat.sub_le_sub_right kept _)⟩
  | poll due poll _ ih =>
      obtain ⟨later, nearer⟩ := ih (stopping.turn (.poll poll))
      have kept := stopping.poll_nearer poll due
      exact ⟨later, by omega⟩

end Run.IsStopping

/-! ## Polls that are made -/

private theorem Run.IsFinishing.suspended_or_due (finishing : run.IsFinishing plan)
    (overlooked : run.looks = false) :
    run.IsSuspended plan ∨ run.point.isRelease = true ∧ run.IsWaiting plan ∧
      ∃ deadline, run.point.deadline? = some deadline ∧ deadline ≤ run.now := by
  obtain ⟨ledger, -, agrees⟩ := Run.isKept_of_reachable finishing.reached
  rcases finishing.watched.resolve_left (by simp [overlooked]) with release | atEnd
  · have calling := agrees.busy (Point.isBusy_of_isRelease release)
    have waits : run.IsWaiting plan := calling.trans (finishing.calling calling).symm
    obtain ⟨deadline, limit⟩ := Point.exists_deadline release
    by_cases due : deadline ≤ run.now
    · exact .inr ⟨release, waits, deadline, limit, due⟩
    · refine .inl ⟨waits, overlooked, ?_⟩
      intro other same
      cases limit.symm.trans same
      exact Nat.not_le.mp due
  · have waits : run.IsWaiting plan := by
      have calling := finishing.calling
      unfold Run.IsWaiting
      rw [atEnd] at calling ⊢
      simpa [Point.call?] using calling
    exact .inl ⟨waits, overlooked, by simp [atEnd, Point.deadline?]⟩

/-- Whatever the loop has begun, it can go on until it has to wait. -/
theorem Run.IsFinishing.exists_suspended (finishing : run.IsFinishing plan) :
    ∃ after, Relation.ReflTransGen (Work plan) run after ∧ after.IsSuspended plan := by
  induction nearer : run.point.rank using Nat.strongRecOn generalizing run with
  | _ rank ih =>
      have goOn {run : Run} {ending : Call → Mark} {event : Event}
          (finishing : run.IsFinishing plan) (same : run.point.rank = rank)
          (winds : Winds run.point event)
          (work : Work plan run ((run.endCall plan ending).react plan event)) :
          ∃ after, Relation.ReflTransGen (Work plan) run after ∧ after.IsSuspended plan := by
        obtain ⟨ledger, -, agrees⟩ := Run.isKept_of_reachable finishing.reached
        have nearer : ((run.endCall plan ending).react plan event).point.rank < rank := by
          rw [← same, Run.endCall_react_eq]
          exact (react_unwinds finishing.isShutDown agrees.fits winds).nearer
        obtain ⟨after, works, suspended⟩ := ih _ nearer (finishing.work work).1 rfl
        exact ⟨after, works.head work, suspended⟩
      have overlooked {run : Run} (finishing : run.IsFinishing plan)
          (same : run.point.rank = rank) (looks : run.looks = false) :
          ∃ after, Relation.ReflTransGen (Work plan) run after ∧ after.IsSuspended plan := by
        rcases finishing.suspended_or_due looks with
          suspended | ⟨release, waits, deadline, limit, due⟩
        · exact ⟨run, .refl, suspended⟩
        · exact goOn finishing same (.expired release) (.expire waits (.inl looks) limit due)
      cases looks : run.looks with
      | false => exact overlooked finishing nearer looks
      | true =>
          cases found : run.point.interrupt? run.signals run.cells with
          | some event =>
              exact goOn finishing nearer (winds_of_interrupt? finishing.isShutDown found)
                (.look finishing.started looks found)
          | none =>
              have turn : Work plan run run.turn := .overlook looks found
              obtain ⟨after, works, suspended⟩ := overlooked (finishing.work turn).1 nearer rfl
              exact ⟨after, works.head turn, suspended⟩

namespace Run.IsStopping

theorem exists_poll (stopping : run.IsStopping plan) (started : run.cells.handle ≠ .absent) :
    ∃ after, Poll plan run after := by
  have waits := stopping.rest.waits
  have finishing := IsFinishing.of_waits stopping.reached stopping.isShutDown started waits
  obtain ⟨after, works, suspended⟩ := finishing.exists_suspended
  exact ⟨after, waits, works, suspended⟩

private theorem exists_polledDuly (stopping : run.IsStopping plan)
    (started : run.cells.handle ≠ .absent)
    (count : Nat) : ∃ after, PolledDuly plan count run after := by
  induction count generalizing run with
  | zero => exact ⟨run, .nothing run⟩
  | succ count ih =>
      have wait : Turn plan run { run with now := run.now + run.point.deadline?.getD 0 } :=
        .pass run _
      have waited := stopping.turn wait
      obtain ⟨middle, poll⟩ := waited.exists_poll started
      have due : ({ run with now := run.now + run.point.deadline?.getD 0 } : Run).IsDue := by
        intro deadline _ limit
        simp only at limit
        simp [limit]
      obtain ⟨after, later⟩ := ih (waited.turn (.poll poll))
        (poll.surrounds.callers.handle ▸ started)
      exact ⟨after, .turn wait (.poll due poll later)⟩

private theorem uninterrupted_of_turns (stopping : run.IsStopping plan)
    (arrived : run.point.IsUninterrupted) (turns : Turns plan run after) :
    after.point.IsUninterrupted := by
  induction turns with
  | refl => exact arrived
  | tail before turn ih =>
      have stopping := (stopping.turns before).1
      rcases turn.poll_or_rests stopping.isShutDown with poll | ⟨point, -, -⟩
      · exact (poll.recedes stopping.reached stopping.isShutDown).2
      · rw [point]
        exact ih

end Run.IsStopping

/-- Nothing is under way but the end of a channel or of a connection, or nothing at all. -/
structure Run.IsWoundDown (plan : Plan) (run : Run) : Prop where
  empty : run.cells.session = none
  releases : (∃ call, run.underWay? plan = some call ∧ call.closes = true) ∨
    run.underWay? plan = none ∧ run.cells.state = .closed

private theorem Run.IsStopping.isWoundDown (stopping : run.IsStopping plan)
    (arrived : run.point.IsUninterrupted) : run.IsWoundDown plan := by
  obtain ⟨ledger, -, agrees⟩ := isKept_of_reachable stopping.reached
  have coherent := isCoherent_of_reachable stopping.reached
  have staged := (isStaged_of_reachable stopping.reached).fits
  refine ⟨coherent.session_eq_none ?_, ?_⟩
  · intro session ready
    simp [ready, Point.IsUninterrupted, Point.isRelease] at arrived
  · rcases arrived with release | atEnd
    · obtain ⟨call, pending, closes⟩ := Point.exists_call plan release
      have calling := agrees.busy (Point.isBusy_of_isRelease release)
      exact .inl ⟨call, by rw [underWay?, if_pos calling, pending], closes⟩
    · rw [atEnd] at staged
      exact .inr ⟨by simp [underWay?, atEnd, Point.call?], staged⟩

/-- What a run that was shut down comes to. -/
structure WindsDown (plan : Plan) (run after : Run) : Prop where
  /-- With what was under way then, the calls that are made are at most the end of one channel
  and after it the end of one connection. No session is stored. -/
  calls : ∃ more, after.history = run.history ++ more ∧
    (∀ entry ∈ more, entry.stores = false) ∧
    ∃ channel connection,
      (((run.underWay? plan).filter (·.closes)).toList ++ issuedCalls more).Sublist
        [.closeChannel channel, .closeConnection connection]
  settles : ∀ polled later, Poll plan after polled → Turns plan polled later →
    later.IsWoundDown plan
  /-- No poll leaves a call waiting beyond its limit. -/
  cutsOff : ∀ polled, Poll plan after polled → ∀ call, polled.underWay? plan = some call →
    ∃ early since, polled.history = early ++ [{ time := since, mark := .called call }] ∧
      polled.now < since + plan.settings.channelTimeout
  passes : after.cells.state = .closed → after.cells.passed.head? = some .closing
  ends : ∀ later, PolledDuly plan 3 after later → later.cells.state = .closed
  reaches : after.cells.state = .closed ∨ ∃ later, PolledDuly plan 3 after later

private theorem Run.IsStopping.cutsOff {call : Call} (stopping : run.IsStopping plan)
    (poll : Poll plan run after) (under : after.underWay? plan = some call) :
    ∃ early since, after.history = early ++ [{ time := since, mark := .called call }] ∧
      after.now < since + plan.settings.channelTimeout := by
  have stopped := stopping.turn (.poll poll)
  obtain ⟨ledger, reads, agrees⟩ := isKept_of_reachable stopped.reached
  obtain ⟨calling, pending⟩ := Option.ite_none_right_eq_some.mp under
  obtain ⟨since, began⟩ := agrees.exists_pending calling pending
  obtain ⟨early, told⟩ := reads.last_of_pending began
  refine ⟨early, since, told, ?_⟩
  have release : after.point.isRelease = true := by
    refine (poll.recedes stopping.reached stopping.isShutDown).2.resolve_right fun atEnd => ?_
    simp [atEnd, Point.call?] at pending
  obtain ⟨other, same, closes⟩ := Point.exists_call plan release
  cases pending.symm.trans same
  obtain ⟨deadline, limit⟩ := Point.exists_deadline release
  rw [← agrees.limit since call deadline began closes limit]
  exact poll.suspends.early deadline limit

theorem Run.IsStopping.windsDown (stopping : run.IsStopping plan) (turns : Turns plan run after) :
    WindsDown plan run after := by
  obtain ⟨stopped, ⟨more, told, quiet, left⟩, -⟩ := stopping.turns turns
  have staged := isStaged_of_reachable stopped.reached
  refine ⟨⟨more, told, quiet, ?_⟩, ?_, fun polled poll call => stopped.cutsOff poll, staged.ended,
    ?_, ?_⟩
  · obtain ⟨channel, connection, whole⟩ := run.point.underWay_closings plan run.isCalling
    refine ⟨channel, connection, List.Sublist.trans ?_ whole⟩
    rw [← left]
    exact (List.sublist_append_left _ _).append_left _
  · intro polled later poll turns
    have arrived := (poll.recedes stopped.reached stopped.isShutDown).2
    have settled := stopped.turn (.poll poll)
    exact (settled.turns turns).1.isWoundDown (settled.uninterrupted_of_turns arrived turns)
  · intro later schedule
    obtain ⟨stopped, nearer⟩ := stopped.polledDuly schedule
    have atEnd := Point.eq_closed_of_rank
      (Nat.le_zero.mp (nearer.trans (Nat.sub_le_iff_le_add.mpr after.point.rank_le)))
    have staged := (isStaged_of_reachable stopped.reached).fits
    rw [atEnd] at staged
    exact staged
  · by_cases absent : after.cells.handle = .absent
    · exact .inl (stopped.rest.closed stopped.isShutDown absent)
    · exact .inr (stopped.exists_polledDuly absent 3)

end

end AmqpClient.Supervisor
