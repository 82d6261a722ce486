import AmqpClient.Proofs.Supervisor.Heeding
import AmqpClient.Proofs.Supervisor.Moments

/-!
# Why the loop dials and opens channels

Time is virtual: while the loop works, nothing else happens. Then every dial after the
first and every further channel on a connection can be put down to an earlier moment of
the run: to an attempt that failed, with the pause that follows it, or to the end of
what was held before. No channel is opened on a connection that is known to be closed.
-/

set_option autoImplicit false

namespace AmqpClient.Supervisor

/-! ## Moments of a run -/

/-- The moments that a run has come through, up to the present one. -/
inductive Traced (plan : Plan) : List Run → Run → Prop where
  | begin : Traced plan [] {}
  | next {past : List Run} {run after : Run} (traced : Traced plan past run)
      (timed : Timed plan run after) : Traced plan (past ++ [run]) after

private theorem Traced.reachable {plan : Plan} {past : List Run} {run : Run}
    (traced : Traced plan past run) : Reachable plan run := by
  induction traced with
  | begin => exact .refl
  | next _ timed ih => exact ih.tail timed.step

theorem Traced.extend {plan : Plan} {past : List Run} {run after : Run}
    (traced : Traced plan past run) (taken : Relation.ReflTransGen (Timed plan) run after) :
    ∃ later, Traced plan later after := by
  induction taken with
  | refl => exact ⟨past, traced⟩
  | tail _ timed ih =>
      obtain ⟨later, traced⟩ := ih
      exact ⟨_, traced.next timed⟩

/-- A run whose polls are not divided can be traced. -/
theorem exists_traced_of_turns {plan : Plan} {run : Run} (turns : Turns plan {} run) :
    ∃ past, Traced plan past run := by
  induction turns with
  | refl => exact ⟨[], .begin⟩
  | tail before turn ih =>
      obtain ⟨past, traced⟩ := ih
      exact traced.extend (turn.timed (Run.isAtRest_of_turns before).1)

/-! ## Causes -/

/-- The last thing that happened is that a dial failed, or was cut off at its limit. -/
def FailedDial (plan : Plan) (history : List Entry) (ended : Nat) : Prop :=
  ∃ early since mark,
    history = early ++
      [{ time := since, mark := .called (.connect plan.endpoint) }, { time := ended, mark }] ∧
    mark.Fails (.connect plan.endpoint) ∧
    mark.Ends plan.settings.connectTimeout since ended (.connect plan.endpoint)

/-- The last thing that happened is that the setup of the channel that was opened last has
failed: the topology was refused, or one of the calls for it has failed. -/
inductive FailedChannel (plan : Plan) (connection channel : Nat) (history : List Entry)
    (ended : Nat) : Prop where
  | refused {early : List Entry} {error : ClientError}
      (told : history = early ++
        [{ time := ended, mark := .returned (.openChannel connection) (.ok (.channel channel)) }])
      (invalid : plan.topology.validate = .error error)
  | failed {first rest : List Entry} {opened : Nat} {call : Call} {mark : Mark}
      (told : history = first ++
        { time := opened, mark := .returned (.openChannel connection) (.ok (.channel channel)) } ::
          (rest ++ [{ time := ended, mark }]))
      (alone : Without Call.opens rest) (about : call.setUp? = some channel)
      (fails : mark.Fails call)

/-- The last thing that happened is that no channel could be opened, or that one was
released whose setup has failed. -/
inductive FailedSetup (plan : Plan) (connection : Nat) (history : List Entry) (ended : Nat) :
    Prop where
  | unopened {early : List Entry} {since : Nat} {mark : Mark}
      (told : history = early ++
        [{ time := since, mark := .called (.openChannel connection) }, { time := ended, mark }])
      (fails : mark.Fails (.openChannel connection))
  | released {before : List Entry} {channel failed since : Nat} {mark : Mark}
      (told : history = before ++
        [{ time := since, mark := .called (.closeChannel channel) }, { time := ended, mark }])
      (cause : FailedChannel plan connection channel before failed) (earlier : failed ≤ ended)
      (ends : mark.Ends plan.settings.channelTimeout since ended (.closeChannel channel))

/-- Why a connection is let go of. -/
inductive LetsGo (connection : Nat) (met : Run) : Prop where
  | closed (closed : (met.signals.connection connection).isClosed = true)
  | asked {session : Session} (watched : met.point = .ready session)
      (held : session.connection = connection)
      (meant : met.cells.requested = session.generation)
      (named : session.generation ∈ met.named)

/-- The connection that was dialed last was let go of for a reason, and no other was
dialed since. -/
inductive HasLeft (connection : Nat) (moments : List Run) (history : List Entry) : Prop where
  | intro {met left : Run} {first rest more : List Entry} {time : Nat} {endpoint : Endpoint}
      (moment : [met, left] <:+: moments) (cause : LetsGo connection met)
      (fresh : met.point.drops? = none) (dropped : left.point.drops? = some connection)
      (dialed : left.history = first ++
        { time, mark := .returned (.connect endpoint) (.ok (.connection connection)) } :: rest)
      (told : history = left.history ++ more) (undialed : Without Call.dials (rest ++ more))

/-- Why there is another dial. -/
inductive DialCause (plan : Plan) (moments : List Run) (history : List Entry) (now : Nat) :
    Prop where
  | first (undialed : Without Call.dials history)
  | failed {ended : Nat} (failed : FailedDial plan history ended)
      (paused : ended + plan.settings.reconnectDelay ≤ now)
  | left {connection : Nat} (left : HasLeft connection moments history)

/-- The channel of a session was lost, and is being released. Its connection was open. -/
inductive HasLost (connection channel since : Nat) (moments : List Run)
    (history : List Entry) : Prop where
  | intro {met left : Run} {session : Session} (moment : [met, left] <:+: moments)
      (cause : ReopensFor met.signals session met.point) (leaves : left.point ≠ .ready session)
      (held : session.connection = connection) (same : session.channel = channel)
      (told : history = met.history ++
        [{ time := since, mark := .wrote none },
          { time := since, mark := .called (.closeChannel channel) }])

/-- Why a channel is opened on a connection: the connection is new, the attempt before has
failed, or the channel of its session was lost and has been released. -/
inductive OpeningCause (plan : Plan) (connection : Nat) (moments : List Run)
    (history : List Entry) (now : Nat) : Prop where
  | dialed {early : List Entry} {time : Nat} {endpoint : Endpoint}
      (told : history = early ++
        [{ time, mark := .returned (.connect endpoint) (.ok (.connection connection)) }])
  | failed {ended : Nat} (failed : FailedSetup plan connection history ended)
      (paused : ended + plan.settings.reinitDelay ≤ now)
  | lost {early : List Entry} {channel since ended : Nat} {mark : Mark}
      (lost : HasLost connection channel since moments early)
      (told : history = early ++ [{ time := ended, mark }])
      (ends : mark.Ends plan.settings.channelTimeout since ended (.closeChannel channel))

section

variable {plan : Plan} {connection channel since now : Nat} {moments : List Run}
  {history more : List Entry}

theorem HasLeft.extend (left : HasLeft connection moments history) (next : Run)
    (quiet : Without Call.dials more) : HasLeft connection (moments ++ [next]) (history ++ more) := by
  obtain ⟨moment, cause, fresh, dropped, dialed, told, undialed⟩ := left
  refine .intro (moment.trans (List.prefix_append _ _).isInfix) cause fresh dropped dialed
    (by rw [told, List.append_assoc]) ?_
  rw [← List.append_assoc]
  exact undialed.append quiet

private theorem HasLeft.remain (left : HasLeft connection moments history) (next : Run) :
    HasLeft connection (moments ++ [next]) history := by
  have nothing : Without Call.dials [] := .of_issuedCalls rfl
  have extended := left.extend next nothing
  rwa [List.append_nil] at extended

private theorem HasLost.remain (lost : HasLost connection channel since moments history)
    (next : Run) :
    HasLost connection channel since (moments ++ [next]) history := by
  obtain ⟨moment, cause, leaves, held, same, told⟩ := lost
  exact .intro (moment.trans (List.prefix_append _ _).isInfix) cause leaves held same told

private theorem HasLost.since_eq {early : List Entry} {began : Nat}
    (lost : HasLost connection channel since moments history)
    (told : history = early ++ [{ time := began, mark := .called (.closeChannel channel) }]) :
    began = since := by
  obtain ⟨moment, cause, leaves, held, same, record⟩ := lost
  rw [List.append_cons] at record
  exact (time_eq_of_last (record.symm.trans told)).symm

private theorem DialCause.remain (cause : DialCause plan moments history now) (next : Run) :
    DialCause plan (moments ++ [next]) history now := by
  cases cause with
  | first undialed => exact .first undialed
  | failed failed paused => exact .failed failed paused
  | left left => exact .left (left.remain next)

private theorem OpeningCause.remain (cause : OpeningCause plan connection moments history now)
    (next : Run) : OpeningCause plan connection (moments ++ [next]) history now := by
  cases cause with
  | dialed told => exact .dialed told
  | failed failed paused => exact .failed failed paused
  | lost lost told ends => exact .lost (lost.remain next) told ends

end

/-! ## What can be told at a point -/

/-- What can be told of the run so far at a point of the loop. -/
def Account (plan : Plan) (moments : List Run) (history : List Entry) (now : Nat)
    (isCalling : Bool) : Point → Prop
  | .entry => Without Call.dials history
  | .dial deadline =>
    if isCalling then
      ∃ early since,
        history = early ++ [{ time := since, mark := .called (.connect plan.endpoint) }] ∧
        deadline = since + plan.settings.connectTimeout
    else DialCause plan moments history now ∧ deadline = now + plan.settings.connectTimeout
  | .dialPause deadline =>
    ∃ ended, FailedDial plan history ended ∧ deadline = ended + plan.settings.reconnectDelay
  | .setup connection stage _ =>
    match stage with
    | .openChannel => isCalling = false → OpeningCause plan connection moments history now
    | .install .. | .confirmSelect _ => True
    | .discard channel _ =>
      ∃ before failed since,
        history = before ++ [{ time := since, mark := .called (.closeChannel channel) }] ∧
        FailedChannel plan connection channel before failed ∧ failed ≤ since
  | .setupPause connection deadline =>
    ∃ ended, FailedSetup plan connection history ended ∧
      deadline = ended + plan.settings.reinitDelay
  | .releaseChannel channel _ (.setup connection) _ =>
    ∃ since, HasLost connection channel since moments history
  | .releaseChannel _ _ .dial _ | .releaseChannel _ _ .finish _ | .releaseConnection ..
  | .ready _ | .closed => True

/-- What can be told of a run at each of its moments. -/
structure Explains (plan : Plan) (moments : List Run) (run : Run) : Prop where
  account : Account plan moments run.history run.now run.isCalling run.point
  left : ∀ connection, run.point.drops? = some connection →
    HasLeft connection moments run.history
  looked : run.looks = false → run.isCalling = false →
    ∀ connection deadline, run.point = .setup connection .openChannel deadline →
      (run.signals.connection connection).isClosed = false

section

variable {plan : Plan} {past moments : List Run} {run after : Run} {event : Event}
  {ending : Call → Mark} {call : Call} {connection channel : Nat}

private theorem explains_initial : Explains plan [({} : Run)] {} := by
  refine ⟨.of_issuedCalls rfl, nofun, nofun⟩

/-- Where nothing is called, time may pass; where something is, it may pass once it is. -/
theorem Account.remain {history : List Entry} {now later : Nat} {isCalling : Bool} {point : Point}
    (account : Account plan moments history now isCalling point) (next : Run)
    (timed : later = now ∨ isCalling = (point.call? plan).isSome) :
    Account plan (moments ++ [next]) history later isCalling point := by
  cases point with
  | dial deadline =>
      cases isCalling with
      | true => exact account
      | false =>
          rcases timed with rfl | waits
          · exact ⟨account.1.remain next, account.2⟩
          · cases waits
  | setup connection stage deadline =>
      cases stage with
      | openChannel =>
          intro idle
          rcases timed with rfl | waits
          · exact (account idle).remain next
          · cases idle.symm.trans waits
      | _ => exact account
  | releaseChannel channel connection? goal deadline =>
      cases goal with
      | setup connection =>
          obtain ⟨since, lost⟩ := account
          exact ⟨since, lost.remain next⟩
      | dial | finish => trivial
  | _ => exact account

/-! ## From one moment to the next -/

theorem Explains.stands (explains : Explains plan moments run) (waits : run.IsWaiting plan)
    (stands : run.Stands after) : Explains plan (moments ++ [after]) after := by
  obtain ⟨account, left, -⟩ := explains
  obtain ⟨point, isCalling, more, told, quiet, still⟩ := stands
  refine ⟨?_, ?_, ?_⟩
  · rw [point, isCalling]
    by_cases atEntry : run.point = .entry
    · rw [atEntry] at account ⊢
      rw [told]
      exact Without.append account (.of_issuedCalls quiet)
    · rw [told, still atEntry, List.append_nil]
      exact account.remain after (.inr waits)
  · intro connection dropped
    rw [point] at dropped
    rw [told]
    exact (left connection dropped).extend after (.of_issuedCalls quiet)
  · intro overlooked idle connection deadline atSetup
    rw [point] at atSetup
    rw [isCalling, waits, atSetup] at idle
    cases idle

namespace Explains

private theorem dialCause (explains : Explains plan moments run)
    (occurs : Occurs plan run ending event)
    (origin : DialsFrom run.point event) (next : Run) :
    DialCause plan (moments ++ [next]) (run.history ++ run.endEntries plan ending) run.now := by
  obtain ⟨account, left, -⟩ := explains
  cases origin with
  | entry fresh =>
      rw [fresh] at account
      exact .first (Without.append account (occurs.without _))
  | pause paused finished =>
      obtain ⟨deadline, limit, due⟩ := occurs.due finished
      rw [paused] at account limit
      cases limit
      obtain ⟨ended, failed, rfl⟩ := account
      have quiet : run.endEntries plan ending = [] := by
        simp [Run.endEntries, paused, Point.call?]
      rw [quiet, List.append_nil]
      exact .failed failed due
  | release dropped => exact .left ((left _ dropped).extend next (occurs.without _))

private theorem openingCause (explains : Explains plan moments run) (reached : Reachable plan run)
    (occurs : Occurs plan run ending event) (origin : OpensFrom connection run.point event)
    (next : Run) :
    OpeningCause plan connection (moments ++ [next]) (run.history ++ run.endEntries plan ending)
      run.now := by
  have account := explains.account
  cases origin with
  | dial dialing returned named =>
      subst returned
      cases occurs with
      | interrupt found => cases isEnd_of_interrupt? found
      | reply calling pending answers =>
          rw [Occurs.endEntries_eq calling pending]
          rw [dialing] at pending
          cases pending
          have answered := eq_connection_of_answers (answers _ rfl)
          rw [named] at answered
          rw [answered]
          exact .dialed rfl
  | pause paused finished =>
      obtain ⟨deadline, limit, due⟩ := occurs.due finished
      rw [paused] at account limit
      cases limit
      obtain ⟨ended, failed, rfl⟩ := account
      have quiet : run.endEntries plan ending = [] := by
        simp [Run.endEntries, paused, Point.call?]
      rw [quiet, List.append_nil]
      exact .failed failed due
  | @release channel deadline releasing finished =>
      have pending : run.point.call? plan = some (.closeChannel channel) := by
        rw [releasing]
        rfl
      have calling := occurs.calling finished pending
      rw [releasing] at account
      obtain ⟨since, lost⟩ := account
      obtain ⟨early, began, told, limit⟩ := run.exists_pending reached calling pending
      rw [Occurs.endEntries_eq calling pending]
      have same : began = since := lost.since_eq told
      exact .lost (lost.remain next) rfl (occurs.ends finished _ (same ▸ limit rfl))

private theorem failedSetup (explains : Explains plan moments run) (reached : Reachable plan run)
    (occurs : Occurs plan run ending event) (origin : SetupFailsFrom connection run.point event) :
    FailedSetup plan connection (run.history ++ run.endEntries plan ending) run.now := by
  have account := explains.account
  cases origin with
  | unopened opening failed =>
      have pending : run.point.call? plan = some (.openChannel connection) := by
        rw [opening]
        rfl
      have calling := occurs.calling (Event.isEnd_of_isFailure failed) pending
      obtain ⟨early, since, told, -⟩ := Run.exists_pending reached calling pending
      rw [Occurs.endEntries_eq calling pending, told, List.append_assoc]
      exact .unopened rfl (occurs.fails failed _)
  | @discarded channel deadline cause discarding finished =>
      have pending : run.point.call? plan = some (.closeChannel channel) := by
        rw [discarding]
        rfl
      have calling := occurs.calling finished pending
      rw [discarding] at account
      obtain ⟨before, failed, since, told, cause, earlier⟩ := account
      obtain ⟨_, began, record, limit⟩ := Run.exists_pending reached calling pending
      have same : began = since := time_eq_of_last (record.symm.trans told)
      have recent : since ≤ run.now := by
        refine Run.time_le reached { time := since, mark := .called (.closeChannel channel) } ?_
        simp [told]
      rw [Occurs.endEntries_eq calling pending, told, List.append_assoc]
      exact .released rfl cause (earlier.trans recent) (occurs.ends finished _ (same ▸ limit rfl))

end Explains

private theorem DropsFor.letsGo (cause : DropsFor run.signals run.cells connection run.point)
    (reached : Reachable plan run) : LetsGo connection run := by
  cases cause with
  | closed closed => exact .closed closed
  | asked watched held meant =>
      exact .asked watched held meant (Run.generation_mem_named reached watched meant)

private theorem Point.channelStatus_of_setUp? {stage : Stage} {deadline : Nat}
    (pending : (Point.setup connection stage deadline).call? plan = some call)
    (about : call.setUp? = some channel) :
    (Point.setup connection stage deadline).channelStatus = .inSetup channel := by
  cases stage with
  | install held step =>
      have same := setUp?_call plan.topology held step
      rw [Option.some.inj pending, about] at same
      cases same
      rfl
  | confirmSelect held =>
      cases pending
      cases about
      rfl
  | openChannel | discard =>
      cases pending
      cases about

/-- A setup that leads to the release of its channel has failed right before. -/
theorem Occurs.failedChannel (occurs : Occurs plan run ending event) (reached : Reachable plan run)
    (origin : DiscardsFrom plan connection channel run.point event) :
    FailedChannel plan connection channel (run.history ++ run.endEntries plan ending) run.now := by
  cases origin with
  | refused opening returned named invalid =>
      subst returned
      cases occurs with
      | interrupt found => cases isEnd_of_interrupt? found
      | reply calling pending answers =>
          rw [endEntries_eq calling pending]
          rw [opening] at pending
          cases pending
          have answered := eq_channel_of_answers (answers _ rfl)
          rw [named] at answered
          rw [answered]
          exact .refused rfl invalid
  | failed preparing pending about failed =>
      have calling := occurs.calling (Event.isEnd_of_isFailure failed) pending
      rw [endEntries_eq calling pending]
      obtain ⟨ledger, reads, agrees⟩ := Run.isKept_of_reachable reached
      have held : ledger.connection? = some connection := by
        rw [agrees.connection, preparing]
        rfl
      have inSetup : ledger.channel = .inSetup channel := by
        rw [preparing] at pending
        rw [agrees.channel, preparing]
        exact Point.channelStatus_of_setUp? pending about
      obtain ⟨first, opened, rest, told, alone⟩ := reads.exists_opened held inSetup
      rw [told, List.append_assoc]
      exact .failed rfl alone about (occurs.fails failed _)

namespace Account

variable {history : List Entry} {now : Nat} {isCalling : Bool} {point : Point}

/-- The last that is done needs no cause. -/
theorem of_isLast (last : point.isLast = true) :
    Account plan moments history now isCalling point := by
  cases point with
  | releaseChannel channel connection? goal deadline =>
      cases goal with
      | finish => trivial
      | dial | setup connection => cases last
  | releaseConnection | closed => trivial
  | _ => cases last

private theorem of_drops? (dropped : point.drops? = some connection) :
    Account plan moments history now isCalling point := by
  cases point with
  | releaseChannel channel connection? goal deadline =>
      cases goal with
      | dial => trivial
      | setup connection | finish => cases dropped
  | releaseConnection => trivial
  | _ => cases dropped

private theorem of_prepares {stage : Stage} {deadline : Nat}
    (pending : (Point.setup connection stage deadline).call? plan = some call)
    (about : call.setUp? = some channel) :
    Account plan moments history now isCalling (.setup connection stage deadline) := by
  cases stage with
  | install | confirmSelect => trivial
  | openChannel | discard =>
      cases pending
      cases about

end Account

/-- The run comes from one moment to the next by a reaction. -/
structure Reacts (plan : Plan) (past : List Run) (run : Run) (ending : Call → Mark)
    (event : Event) (reaction : Reaction) (after : Run) : Prop where
  explains : Explains plan (past ++ [run]) run
  reached : Reachable plan run
  come : Reachable plan after
  occurs : Occurs plan run ending event
  same : after =
    { run with
      cells := reaction.cells
      point := reaction.next.point
      looks := reaction.next.looks
      isCalling := reaction.next.calls plan
      history := run.history ++ (run.endEntries plan ending ++
        reaction.entries plan run.now run.cells) }

namespace Reacts

variable {past : List Run} {reaction : Reaction} {target : Point}

theorem now (reacts : Reacts plan past run ending event reaction after) :
    after.now = run.now := by
  rw [reacts.same]

theorem told (reacts : Reacts plan past run ending event reaction after) :
    after.history = run.history ++ (run.endEntries plan ending ++
      reaction.entries plan run.now run.cells) := by
  rw [reacts.same]

private theorem told_of_await (reacts : Reacts plan past run ending event reaction after)
    (next : reaction.next = .await target)
    (unwritten : reaction.cells.sessionVersion = run.cells.sessionVersion) :
    after.history = run.history ++ run.endEntries plan ending := by
  rw [reacts.told]
  simp [Reaction.entries, next, unwritten, Next.entries]

private theorem moment (_ : Reacts plan past run ending event reaction after) :
    [run, after] <:+: past ++ [run] ++ [after] :=
  ⟨past, [], by simp⟩

/-- What is told at a point that is looked at first. -/
theorem awaits (reacts : Reacts plan past run ending event reaction after)
    (next : reaction.next = .await target) (kept : target.drops? = none)
    (account : Account plan (past ++ [run] ++ [after]) after.history after.now false target) :
    Explains plan (past ++ [run] ++ [after]) after := by
  have point : after.point = target := by rw [reacts.same, next, Next.point]
  have looks : after.looks = true := by rw [reacts.same, next, Next.looks]
  have idle : after.isCalling = false := by rw [reacts.same, next, Next.calls]
  refine ⟨?_, ?_, ?_⟩
  · rw [point, idle]
    exact account
  · intro connection dropped
    rw [point, kept] at dropped
    cases dropped
  · intro overlooked
    cases looks.symm.trans overlooked

/-- What is told at a point that is called for at once. -/
theorem proceeds (reacts : Reacts plan past run ending event reaction after)
    (next : reaction.next = .proceed target)
    (account : Account plan (past ++ [run] ++ [after]) after.history after.now
      (target.call? plan).isSome target)
    (left : ∀ connection, target.drops? = some connection →
      HasLeft connection (past ++ [run] ++ [after]) after.history) :
    Explains plan (past ++ [run] ++ [after]) after := by
  have point : after.point = target := by rw [reacts.same, next, Next.point]
  have calls : after.isCalling = (target.call? plan).isSome := by
    rw [reacts.same, next, Next.calls]
  refine ⟨?_, ?_, ?_⟩
  · rw [point, calls]
    exact account
  · rw [point]
    exact left
  · intro overlooked idle connection deadline atSetup
    rw [calls, ← point, atSetup] at idle
    cases idle

theorem keeps (reacts : Reacts plan past run ending event reaction after)
    (next : reaction.next = .proceed target) (kept : target.drops? = none)
    (account : Account plan (past ++ [run] ++ [after]) after.history after.now
      (target.call? plan).isSome target) : Explains plan (past ++ [run] ++ [after]) after := by
  refine reacts.proceeds next account fun connection dropped => ?_
  cases kept.symm.trans dropped

theorem stays (reacts : Reacts plan past run ending event reaction after)
    (idle : IsIdle plan run.point event)
    (unwritten : reaction.cells.sessionVersion = run.cells.sessionVersion)
    (next : reaction.next = .await run.point) : Explains plan (past ++ [run] ++ [after]) after := by
  have quiet := reacts.occurs.idle idle
  have idle := Run.isCalling_eq_false reacts.reached quiet
  have nothing : run.endEntries plan ending = [] := by simp [Run.endEntries, idle]
  refine reacts.awaits next (Point.drops?_of_quiet quiet) ?_
  rw [reacts.told_of_await next unwritten, nothing, List.append_nil, reacts.now, ← idle]
  exact reacts.explains.account.remain after (.inl rfl)

theorem dialFails {deadline : Nat} (reacts : Reacts plan past run ending event reaction after)
    (dialing : run.point = .dial deadline) (failed : event.isFailure = true)
    (unwritten : reaction.cells.sessionVersion = run.cells.sessionVersion)
    (next : reaction.next = .await (.dialPause (run.now + plan.settings.reconnectDelay))) :
    Explains plan (past ++ [run] ++ [after]) after := by
  have occurs := reacts.occurs
  have finished := Event.isEnd_of_isFailure failed
  have pending : run.point.call? plan = some (.connect plan.endpoint) := by
    rw [dialing]
    rfl
  have calling := occurs.calling finished pending
  have account := reacts.explains.account
  rw [dialing, calling] at account
  obtain ⟨early, since, record, set⟩ := account
  refine reacts.awaits next rfl
    ⟨run.now, ⟨early, since, _, ?_, occurs.fails failed _, ?_⟩, rfl⟩
  · rw [reacts.told_of_await next unwritten, Occurs.endEntries_eq calling pending, record,
      List.append_assoc]
    rfl
  · refine occurs.ends finished _ ?_
    rw [dialing]
    rintro deadline ⟨⟩
    exact set

theorem drops (reacts : Reacts plan past run ending event reaction after)
    (fresh : run.point.drops? = none)
    (cause : DropsFor run.signals run.cells connection run.point)
    (next : reaction.next = .proceed target) (dropped : target.drops? = some connection) :
    Explains plan (past ++ [run] ++ [after]) after := by
  have point : after.point = target := by rw [reacts.same, next, Next.point]
  obtain ⟨ledger, reads, agrees⟩ := Run.isKept_of_reachable reacts.come
  have held : ledger.connection? = some connection := by
    rw [agrees.connection, point]
    exact Point.connection?_of_drops? dropped
  obtain ⟨first, time, endpoint, rest, dialed, alone⟩ := reads.exists_dialed held
  refine reacts.proceeds next (.of_drops? dropped) fun other given => ?_
  cases dropped.symm.trans given
  refine .intro reacts.moment (cause.letsGo reacts.reached) fresh (point ▸ dropped) dialed
    (List.append_nil _).symm ?_
  rwa [List.append_nil]

theorem reopens {session : Session} {deadline : Nat}
    (reacts : Reacts plan past run ending event reaction after)
    (cause : ReopensFor run.signals session run.point) (withdrawn : reaction.cells.session = none)
    (written : reaction.cells.sessionVersion ≠ run.cells.sessionVersion)
    (next : reaction.next =
      .proceed (.releaseChannel session.channel none (.setup session.connection) deadline)) :
    Explains plan (past ++ [run] ++ [after]) after := by
  have leaves : after.point ≠ .ready session := by
    rw [reacts.same, next]
    exact Point.noConfusion
  have nothing : run.endEntries plan ending = [] := by
    simp [Run.endEntries, cause.watched, Point.call?]
  refine reacts.keeps next rfl ⟨run.now, .intro reacts.moment cause leaves rfl rfl ?_⟩
  rw [reacts.told, nothing]
  simp [Reaction.entries, next, written, withdrawn, Next.entries, Point.call?]

theorem explained (reacts : Reacts plan past run ending event reaction after)
    (route : Route plan run.signals run.now run.cells run.point event reaction) :
    Explains plan (past ++ [run] ++ [after]) after := by
  have explains := reacts.explains
  have occurs := reacts.occurs
  have undialed : Without Call.dials (reaction.entries plan run.now run.cells) :=
    .entries fun call issued => Call.dials_of_opens (route.opens_of_issued issued)
  cases route with
  | stays idle unwritten next => exact reacts.stays idle unwritten next
  | ends last =>
      cases next : reaction.next with
      | await target =>
          rw [next] at last
          exact reacts.awaits next (Point.drops?_of_isLast last) (.of_isLast last)
      | proceed target =>
          rw [next] at last
          exact reacts.keeps next (Point.drops?_of_isLast last) (.of_isLast last)
  | dials origin unwritten next =>
      refine reacts.awaits next rfl ⟨?_, by rw [reacts.now]⟩
      rw [reacts.told_of_await next unwritten, reacts.now]
      exact explains.dialCause occurs origin after
  | dialFails dialing failed unwritten next => exact reacts.dialFails dialing failed unwritten next
  | opens origin unwritten next =>
      refine reacts.awaits next rfl fun _ => ?_
      rw [reacts.told_of_await next unwritten, reacts.now]
      exact explains.openingCause reacts.reached occurs origin after
  | prepares next pending about => exact reacts.keeps next rfl (.of_prepares pending about)
  | discards origin unwritten next =>
      refine reacts.keeps next rfl ⟨run.history ++ run.endEntries plan ending, run.now, run.now,
        ?_, occurs.failedChannel reacts.reached origin, Nat.le_refl _⟩
      rw [reacts.told]
      simp [Reaction.entries, next, unwritten, Next.entries, Point.call?]
  | setupFails origin unwritten next =>
      refine reacts.awaits next rfl ⟨run.now, ?_, rfl⟩
      rw [reacts.told_of_await next unwritten]
      exact explains.failedSetup reacts.reached occurs origin
  | publishes next => exact reacts.awaits next rfl trivial
  | drops fresh cause next dropped => exact reacts.drops fresh cause next dropped
  | @dropsOn connection target dropping next dropped =>
      refine reacts.proceeds next (.of_drops? dropped) fun other given => ?_
      cases dropped.symm.trans given
      rw [reacts.told]
      exact (explains.left connection dropping).extend after
        ((occurs.without _).append undialed)
  | reopens cause withdrawn written next => exact reacts.reopens cause withdrawn written next

end Reacts

namespace Explains

theorem overlook (explains : Explains plan moments run)
    (none : run.point.interrupt? run.signals run.cells = none) :
    Explains plan (moments ++ [run.turn]) run.turn := by
  obtain ⟨account, left, -⟩ := explains
  refine ⟨account.remain run.turn (.inl rfl), ?_, ?_⟩
  · intro connection dropped
    exact (left connection dropped).remain run.turn
  · intro overlooked idle connection deadline atSetup
    rw [show run.point = .setup connection .openChannel deadline from atSetup] at none
    simp only [Point.interrupt?] at none
    split at none
    · cases none
    · rw [← CloseCell.isSome_closed?]
      have still : (run.signals.connection connection).closed? = .none :=
        Option.map_eq_none_iff.mp none
      exact Option.isSome_eq_false_iff.mpr (Option.isNone_iff_eq_none.mpr still)

theorem makeCall (explains : Explains plan moments run) (reached : Reachable plan run)
    (idle : run.isCalling = false) :
    Explains plan (moments ++ [run.makeCall plan]) (run.makeCall plan) := by
  obtain ⟨account, left, looked⟩ := explains
  cases pending : run.point.call? plan with
  | none =>
      have same : run.makeCall plan = run := by simp [Run.makeCall, pending]
      rw [same]
      exact ⟨account.remain run (.inl rfl), fun connection dropped =>
        (left connection dropped).remain run, looked⟩
  | some call =>
      have quiet := Run.isBusy_eq_false reached idle
      have calling : (run.makeCall plan).isCalling = true := by
        rw [Run.isCalling_makeCall idle, pending]
        rfl
      refine ⟨?_, ?_, fun _ waiting => absurd (waiting.symm.trans calling) Bool.false_ne_true⟩
      · rw [Run.point_makeCall, Run.history_makeCall, calling, pending]
        rcases Point.opening_of_call pending quiet with
          ⟨deadline, dialing⟩ | ⟨connection, deadline, opening⟩
        · rw [dialing, idle] at account
          rw [dialing] at pending ⊢
          cases pending
          exact ⟨run.history, run.now, rfl, account.2⟩
        · rw [opening]
          intro waiting
          cases waiting
      · intro connection dropped
        rw [Run.point_makeCall] at dropped
        cases quiet.symm.trans (Point.isBusy_of_isRelease (Point.isRelease_of_drops? dropped))

theorem timed {past : List Run} (explains : Explains plan (past ++ [run]) run)
    (reached : Reachable plan run) (timed : Timed plan run after) :
    Explains plan (past ++ [run] ++ [after]) after := by
  have come : Reachable plan after := reached.tail timed.step
  cases timed.course (Run.isCoherent_of_reachable reached) with
  | stands waits stands => exact explains.stands waits stands
  | overlook none => exact explains.overlook none
  | call idle overlooked => exact explains.makeCall reached idle
  | react occurs =>
      have reacts : Reacts plan past run _ _ _ _ :=
        ⟨explains, reached, come, occurs, run.endCall_react_eq plan _ _⟩
      exact reacts.explained (occurs.route reached)

end Explains

theorem Traced.explains {past : List Run} (traced : Traced plan past run) :
    Explains plan (past ++ [run]) run := by
  induction traced with
  | begin => exact explains_initial
  | next traced timed ih => exact ih.timed traced.reachable timed

/-! ## Dials and channels -/

namespace Course

/-- A connection is not let go of but for a reason. -/
theorem letsGo (course : Course plan run after) (reached : Reachable plan run)
    (held : run.point.drops? = none) (dropped : after.point.drops? = some connection) :
    LetsGo connection run := by
  have stays (point : after.point = run.point) : LetsGo connection run := by
    rw [point, held] at dropped
    cases dropped
  cases course with
  | stands waits stands => exact stays stands.point
  | overlook none => exact stays rfl
  | call idle overlooked => exact stays (run.point_makeCall plan)
  | @react ending event occurs =>
      have point : ((run.endCall plan ending).react plan event).point =
          (Supervisor.react plan run.signals run.now run.cells run.point event).next.point := by
        rw [Run.endCall_react_eq]
      exact ((occurs.route reached).dropsFor held (point ▸ dropped)).letsGo reached

end Course

namespace Run

/-- Why the loop goes on as it does: every dial and every opening of a channel has its
cause, and a connection is not let go of unless it is closed or was asked to be left. -/
structure IsCaused (plan : Plan) (past : List Run) (run : Run) : Prop where
  dials : ∀ after endpoint, Timed plan run after → run.Makes after (.connect endpoint) →
    DialCause plan (past ++ [run]) run.history run.now
  opens : ∀ after connection, Timed plan run after → run.Makes after (.openChannel connection) →
    (run.signals.connection connection).isClosed = false ∧
      OpeningCause plan connection (past ++ [run]) run.history run.now
  /-- Neither a setup that has failed nor the end of a channel is a reason to dial. -/
  keeps : ∀ after connection, Timed plan run after → run.point.drops? = none →
    after.point.drops? = some connection → LetsGo connection run

theorem isCaused_of_traced {past : List Run} (traced : Traced plan past run) :
    run.IsCaused plan past := by
  have reached := traced.reachable
  have coherent := isCoherent_of_reachable reached
  obtain ⟨account, left, looked⟩ := traced.explains
  constructor
  · intro after endpoint timed makes
    obtain ⟨idle, overlooked, pending⟩ := (timed.course coherent).opening_of_makes reached makes rfl
    obtain ⟨deadline, dialing⟩ := Point.exists_dial pending
    rw [dialing, idle] at account
    exact account.1
  · intro after connection timed makes
    obtain ⟨idle, overlooked, pending⟩ := (timed.course coherent).opening_of_makes reached makes rfl
    rcases Point.opening_of_call pending (isBusy_eq_false reached idle) with
      ⟨deadline, dialing⟩ | ⟨held, deadline, opening⟩
    · cases dialing ▸ pending
    · rw [opening] at account pending
      cases pending
      exact ⟨looked overlooked idle connection deadline opening, account idle⟩
  · intro after connection timed held dropped
    exact (timed.course coherent).letsGo reached held dropped

end Run

end

/-- The first channel was lost and is released, and the next one has not been called for. -/
def oneQueueReopening : Run :=
  ((oneQueueLost.meet oneQueue (.channelClosed "gone")).receive oneQueue (.ok .done)).turn

private theorem exists_traced_oneQueueReopening :
    ∃ past, Traced oneQueue past oneQueueReopening := by
  have start : Timed oneQueue {} { cells := { handle := .present } } := .other rfl (.start rfl)
  have begun := (Traced.begin.next start).next (.work (.look (by decide) rfl rfl))
  have dialing := (begun.next (.work (.overlook rfl rfl))).next (.work (.call rfl rfl))
  have connected := dialing.next (.work (.answered (.connection 0) rfl rfl rfl rfl))
  have opening := (connected.next (.work (.overlook rfl rfl))).next (.work (.call rfl rfl))
  have opened := opening.next (.work (.answered (.channel 0) rfl rfl rfl rfl))
  have ready := opened.next (.work (.answered (.found true) rfl rfl rfl rfl))
  have lost := ready.next (.other rfl (.signal _ oneQueueLost.signals))
  have left := lost.next (.work (.look (by decide) rfl rfl))
  have closed := left.next (.work (.answered .done rfl rfl rfl rfl))
  exact ⟨_, closed.next (.work (.overlook rfl rfl))⟩

theorem isCaused_reopening :
    oneQueueReopening.Makes (oneQueueReopening.makeCall oneQueue) (.openChannel 0) ∧
      ∃ past, Traced oneQueue past oneQueueReopening ∧
        oneQueueReopening.IsCaused oneQueue past := by
  refine ⟨⟨[{ time := 0, mark := .called (.openChannel 0) }], rfl, .head _⟩, ?_⟩
  obtain ⟨past, traced⟩ := exists_traced_oneQueueReopening
  exact ⟨past, traced, Run.isCaused_of_traced traced⟩

end AmqpClient.Supervisor
