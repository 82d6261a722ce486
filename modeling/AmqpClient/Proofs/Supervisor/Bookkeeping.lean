import AmqpClient.Proofs.Supervisor.Holding

/-!
# Runs keep a ledger

Along every run a ledger can be read off the history, and it says what the loop
holds at its point. Whatever ends a suspension ends the call under way first; the
reaction comes after it.
-/

set_option autoImplicit false

namespace AmqpClient.Supervisor

/-! ## Endings of calls -/

namespace Run

/-- How the call under way has ended, if there is one. -/
def endEntries (plan : Plan) (ending : Call → Mark) (run : Run) : List Entry :=
  if run.isCalling then
    (run.point.call? plan).toList.map fun call => { time := run.now, mark := ending call }
  else []

abbrev Agrees (plan : Plan) (run : Run) (ledger : Ledger) : Prop :=
  ledger.Matches plan run.point run.isCalling run.cells

namespace Agrees

variable {plan : Plan} {run : Run} {ledger : Ledger} {call : Call} {event : Event}

theorem exists_pending (agrees : run.Agrees plan ledger) (calling : run.isCalling = true)
    (pending : run.point.call? plan = some call) :
    ∃ since, ledger.pending? = some (since, call) := by
  have under : ledger.pending?.map Prod.snd = some call := by
    rw [agrees.pending, if_pos calling, pending]
  obtain ⟨⟨since, other⟩, began, rfl⟩ := Option.map_eq_some_iff.mp under
  exact ⟨since, began⟩

private theorem settle_stands (agrees : run.Agrees plan ledger) :
    ledger.settle.Stands run.point.connection? run.point.channelStatus run.cells :=
  ⟨rfl, agrees.connection, agrees.channel, agrees.session, agrees.stored⟩

theorem stands_of_idle (agrees : run.Agrees plan ledger)
    (idle : run.isCalling = false ∨ run.point.call? plan = none) :
    ledger.Stands run.point.connection? run.point.channelStatus run.cells := by
  have none : ledger.pending?.map Prod.snd = none := by
    rw [agrees.pending]
    rcases idle with idle | idle <;> simp [idle]
  exact ⟨Option.map_eq_none_iff.mp none, agrees.connection, agrees.channel, agrees.session,
    agrees.stored⟩

private theorem reads_ending (ending : Call → Mark) (calling : run.isCalling = true)
    (pending : run.point.call? plan = some call) {after : Ledger}
    (enters : ledger.Enters plan.settings.channelTimeout run.now (ending call) after) :
    ledger.Reads plan.settings.channelTimeout (run.endEntries plan ending) after := by
  simpa [endEntries, calling, pending] using Ledger.Reads.single enters

private theorem reads_no_ending (ending : Call → Mark)
    (idle : run.isCalling = false ∨ run.point.call? plan = none) :
    ledger.Reads plan.settings.channelTimeout (run.endEntries plan ending) ledger := by
  have none : run.endEntries plan ending = [] := by
    rcases idle with idle | idle <;> simp [endEntries, idle]
  rw [none]
  exact .nothing

private theorem reads_of_quiet (agrees : run.Agrees plan ledger) (ending : Call → Mark)
    (quiet : run.point.call? plan = none) :
    ledger.Reads plan.settings.channelTimeout (run.endEntries plan ending) ledger ∧
      ledger.Stands run.point.connection? run.point.channelStatus run.cells :=
  ⟨reads_no_ending ending (.inr quiet), agrees.stands_of_idle (.inr quiet)⟩

/-- A dial that is given up leaves nothing behind. -/
theorem abandon_dial {deadline : Nat} (agrees : run.Agrees plan ledger)
    (atDial : run.point = .dial deadline) :
    ∃ middle, ledger.Reads plan.settings.channelTimeout (run.endEntries plan .abandoned) middle ∧
      middle.Stands none .absent run.cells := by
  have pending : run.point.call? plan = some (.connect plan.endpoint) := by rw [atDial]; rfl
  cases isCalling : run.isCalling with
  | false =>
      refine ⟨ledger, reads_no_ending _ (.inl isCalling), ?_⟩
      simpa [atDial, Point.connection?, Point.channelStatus] using
        agrees.stands_of_idle (.inl isCalling)
  | true =>
      obtain ⟨since, began⟩ := agrees.exists_pending isCalling pending
      refine ⟨_, reads_ending _ isCalling pending (.unopened began rfl (.inr rfl)), ?_⟩
      simpa [atDial, Point.connection?, Point.channelStatus] using agrees.settle_stands

/-- A setup that is given up may leave its channel behind. -/
theorem abandon_setup {connection deadline : Nat} {stage : Stage}
    (agrees : run.Agrees plan ledger) (atSetup : run.point = .setup connection stage deadline) :
    ∃ middle status,
      ledger.Reads plan.settings.channelTimeout (run.endEntries plan .abandoned) middle ∧
      middle.Stands (some connection) status run.cells ∧ status.IsFree := by
  have held := agrees.settle_stands
  have busy := agrees.busy
  simp only [atSetup, Point.connection?] at held busy
  cases stage with
  | openChannel =>
      have pending : run.point.call? plan = some (.openChannel connection) := by rw [atSetup]; rfl
      cases isCalling : run.isCalling with
      | false =>
          have idle := agrees.stands_of_idle (.inl isCalling)
          simp only [atSetup, Point.connection?] at idle
          exact ⟨ledger, _, reads_no_ending _ (.inl isCalling), idle, .inl rfl⟩
      | true =>
          obtain ⟨since, began⟩ := agrees.exists_pending isCalling pending
          exact ⟨_, _, reads_ending _ isCalling pending (.unopened began rfl (.inr rfl)), held,
            .inl rfl⟩
  | install channel step =>
      have pending : run.point.call? plan = some (step.call plan.topology channel) := by
        rw [atSetup]
        rfl
      obtain ⟨since, began⟩ := agrees.exists_pending (busy rfl) pending
      have about := setUp?_call plan.topology channel step
      exact ⟨_, _, reads_ending _ (busy rfl) pending (.givenUp began about held.channel),
        held.become _, .inr ⟨channel, rfl⟩⟩
  | confirmSelect channel =>
      have pending : run.point.call? plan = some (.confirmSelect channel) := by rw [atSetup]; rfl
      obtain ⟨since, began⟩ := agrees.exists_pending (busy rfl) pending
      exact ⟨_, _, reads_ending _ (busy rfl) pending (.givenUp began rfl held.channel),
        held.become _, .inr ⟨channel, rfl⟩⟩
  | discard channel cause =>
      have pending : run.point.call? plan = some (.closeChannel channel) := by rw [atSetup]; rfl
      obtain ⟨since, began⟩ := agrees.exists_pending (busy rfl) pending
      exact ⟨_, _, reads_ending _ (busy rfl) pending (.channelLeft began held.channel),
        held.become _, .inl rfl⟩

private theorem meet_suits (agrees : run.Agrees plan ledger)
    (found : run.point.interrupt? run.signals run.cells = some event) :
    ∃ middle, ledger.Reads plan.settings.channelTimeout (run.endEntries plan .abandoned) middle ∧
      Suits plan run.now run.cells middle
        (Supervisor.react plan run.signals run.now run.cells run.point event) := by
  have idle (quiet : run.point.call? plan = none) := agrees.reads_of_quiet .abandoned quiet
  cases atPoint : run.point with
  | entry =>
      rw [atPoint] at found idle
      obtain ⟨reads, stands⟩ := idle rfl
      cases found
      exact ⟨ledger, reads, dial_suits stands⟩
  | releaseChannel | releaseConnection | closed =>
      rw [atPoint] at found
      cases found
  | dial deadline =>
      rw [atPoint] at found
      obtain ⟨middle, reads, stands⟩ := agrees.abandon_dial atPoint
      obtain ⟨-, same⟩ := Option.ite_none_right_eq_some.mp found
      cases same
      exact ⟨middle, reads, finish_suits_of_none stands⟩
  | dialPause deadline =>
      rw [atPoint] at found idle
      obtain ⟨reads, stands⟩ := idle rfl
      obtain ⟨-, same⟩ := Option.ite_none_right_eq_some.mp found
      cases same
      exact ⟨ledger, reads, finish_suits_of_none stands⟩
  | setup connection stage deadline =>
      rw [atPoint] at found
      obtain ⟨middle, status, reads, stands, free⟩ := agrees.abandon_setup atPoint
      refine ⟨middle, reads, ?_⟩
      simp only [Point.interrupt?] at found
      split at found
      · cases found
        exact finish_suits_of_connection stands free
      · obtain ⟨reason, -, rfl⟩ := Option.map_eq_some_iff.mp found
        exact redial_suits _ stands free
  | setupPause connection deadline =>
      rw [atPoint] at found idle
      obtain ⟨reads, stands⟩ := idle rfl
      obtain ⟨-, same⟩ := Option.ite_none_right_eq_some.mp found
      cases same
      exact ⟨ledger, reads, finish_suits_of_connection stands (.inl rfl)⟩
  | ready session =>
      rw [atPoint] at idle
      obtain ⟨reads, stands⟩ := idle rfl
      exact ⟨ledger, reads, leaveReady_suits event stands⟩

/-- A release goes on once its call has ended, in whatever way. -/
theorem end_release_suits {ending : Call → Mark} (agrees : run.Agrees plan ledger)
    (release : (∃ channel connection? goal deadline,
        run.point = .releaseChannel channel connection? goal deadline) ∨
      ∃ connection goal deadline, run.point = .releaseConnection connection goal deadline)
    (ends : ∀ since call, ledger.pending? = some (since, call) → call.closes = true →
      (ending call).Ends plan.settings.channelTimeout since run.now call)
    (ended : event = .expired ∨ ∃ reply, event = .replied reply) :
    ∃ middle, ledger.Reads plan.settings.channelTimeout (run.endEntries plan ending) middle ∧
      Suits plan run.now run.cells middle
        (Supervisor.react plan run.signals run.now run.cells run.point event) := by
  have held := agrees.settle_stands
  have busy := agrees.busy
  have fits := agrees.fits
  rcases release with ⟨channel, connection?, goal, deadline, atPoint⟩ |
    ⟨connection, goal, deadline, atPoint⟩
  · rw [atPoint] at held busy fits
    have pending : run.point.call? plan = some (.closeChannel channel) := by rw [atPoint]; rfl
    obtain ⟨since, began⟩ := agrees.exists_pending (busy rfl) pending
    refine ⟨_, reads_ending ending (busy rfl) pending
      (.channelClosed began (.inr held.channel) (ends since _ began rfl)), ?_⟩
    rw [atPoint]
    cases connection? with
    | none =>
        rcases ended with rfl | ⟨reply, rfl⟩ <;> exact arrive_suits goal (held.become .absent)
    | some connection =>
        have kept : goal.connection? = none := by simpa [Point.FitsGoal] using fits
        rcases ended with rfl | ⟨reply, rfl⟩ <;>
          exact releaseConnection_suits rfl rfl (held.become .absent) (.inl rfl) kept
  · rw [atPoint] at held busy fits
    have pending : run.point.call? plan = some (.closeConnection connection) := by
      rw [atPoint]
      rfl
    obtain ⟨since, began⟩ := agrees.exists_pending (busy rfl) pending
    refine ⟨_, reads_ending ending (busy rfl) pending
      (.connectionClosed began held.connection held.channel (ends since _ began rfl)), ?_⟩
    rw [atPoint]
    have kept : goal.connection? = none := fits
    have stands : ({ ledger.settle with connection? := none } : Ledger).Stands
        goal.connection? .absent run.cells :=
      ⟨rfl, kept.symm, held.channel, held.session, held.stored⟩
    rcases ended with rfl | ⟨reply, rfl⟩ <;> exact arrive_suits goal stands

private theorem receive_setup_suits {connection deadline : Nat} {stage : Stage} {reply : Reply}
    (agrees : run.Agrees plan ledger) (atSetup : run.point = .setup connection stage deadline)
    (calling : run.isCalling = true) (pending : run.point.call? plan = some call)
    (answers : ∀ answer, reply = .ok answer → answer.answers call = true)
    (empty : run.cells.session = none) :
    ∃ middle,
      ledger.Reads plan.settings.channelTimeout (run.endEntries plan (.returned · reply)) middle ∧
      Suits plan run.now run.cells middle
        (setupReplied plan run.now connection stage deadline reply run.cells) := by
  have held := agrees.settle_stands
  obtain ⟨since, began⟩ := agrees.exists_pending calling pending
  have reads {after : Ledger}
      (enters : ledger.Enters plan.settings.channelTimeout run.now (.returned call reply) after) :=
    reads_ending (.returned · reply) calling pending enters
  rw [atSetup] at held pending
  cases stage with
  | openChannel =>
      cases pending
      cases reply with
      | error error =>
          exact ⟨_, reads (.unopened began rfl (.inl (.refused error))),
            setupFailed_suits error held⟩
      | ok answer =>
          cases answer with
          | channel channel =>
              exact ⟨_, reads (.opened began held.connection held.channel),
                continueInstall_suits _ _ _ (held.become (.inSetup channel)) (.inl rfl) empty⟩
          | _ => exact absurd (answers _ rfl) Bool.false_ne_true
  | install channel step =>
      cases pending
      have about := setUp?_call plan.topology channel step
      cases reply with
      | error error =>
          exact ⟨_, reads (.failed began about held.channel (.refused error)),
            continueInstall_suits _ _ _ (held.become (.failed channel)) (.inr ⟨rfl, error, rfl⟩)
              empty⟩
      | ok answer =>
          exact ⟨_, reads (.prepared began about), continueInstall_suits _ _ _ held (.inl rfl)
            empty⟩
  | confirmSelect channel =>
      cases pending
      cases reply with
      | error error =>
          exact ⟨_, reads (.failed began rfl held.channel (.refused error)),
            discard_suits error [] (held.become _) (.inr rfl) empty⟩
      | ok answer => exact ⟨_, reads (.prepared began rfl), publishSession_suits held empty⟩
  | discard channel cause =>
      cases pending
      exact ⟨_, reads (.channelClosed began (.inl held.channel) (.returned reply)),
        setupFailed_suits cause (held.become .absent)⟩

private theorem expire_setup_suits {connection deadline : Nat} {stage : Stage}
    (agrees : run.Agrees plan ledger) (atSetup : run.point = .setup connection stage deadline)
    (waits : run.IsWaiting plan) (due : deadline ≤ run.now) (empty : run.cells.session = none) :
    ∃ middle,
      ledger.Reads plan.settings.channelTimeout (run.endEntries plan .cutOff) middle ∧
      Suits plan run.now run.cells middle
        (setupExpired plan run.now connection stage run.cells) := by
  have held := agrees.settle_stands
  have limit := agrees.limit
  have calling (call : Call) (pending : run.point.call? plan = some call) :
      run.isCalling = true := by
    rw [waits, pending]
    rfl
  rw [atSetup] at held limit
  cases stage with
  | openChannel =>
      have pending : run.point.call? plan = some (.openChannel connection) := by rw [atSetup]; rfl
      obtain ⟨since, began⟩ := agrees.exists_pending (calling _ pending) pending
      exact ⟨_, reads_ending _ (calling _ pending) pending (.unopened began rfl (.inl .cutOff)),
        setupFailed_suits _ held⟩
  | install channel step =>
      have pending : run.point.call? plan = some (step.call plan.topology channel) := by
        rw [atSetup]
        rfl
      obtain ⟨since, began⟩ := agrees.exists_pending (calling _ pending) pending
      have about := setUp?_call plan.topology channel step
      exact ⟨_, reads_ending _ (calling _ pending) pending
          (.failed began about held.channel .cutOff),
        discard_suits _ [] (held.become _) (.inr rfl) empty⟩
  | confirmSelect channel =>
      have pending : run.point.call? plan = some (.confirmSelect channel) := by rw [atSetup]; rfl
      obtain ⟨since, began⟩ := agrees.exists_pending (calling _ pending) pending
      exact ⟨_, reads_ending _ (calling _ pending) pending (.failed began rfl held.channel .cutOff),
        discard_suits _ [] (held.become _) (.inr rfl) empty⟩
  | discard channel cause =>
      have pending : run.point.call? plan = some (.closeChannel channel) := by rw [atSetup]; rfl
      obtain ⟨since, began⟩ := agrees.exists_pending (calling _ pending) pending
      have late : since + plan.settings.channelTimeout ≤ run.now :=
        limit since _ deadline began rfl rfl ▸ due
      exact ⟨_, reads_ending _ (calling _ pending) pending
          (.channelClosed began (.inl held.channel) (.cutOff late)),
        setupFailed_suits cause (held.become .absent)⟩

private theorem receive_suits {reply : Reply} (agrees : run.Agrees plan ledger)
    (coherent : run.IsCoherent) (calling : run.isCalling = true)
    (pending : run.point.call? plan = some call)
    (answers : ∀ answer, reply = .ok answer → answer.answers call = true) :
    ∃ middle,
      ledger.Reads plan.settings.channelTimeout (run.endEntries plan (.returned · reply)) middle ∧
      Suits plan run.now run.cells middle
        (Supervisor.react plan run.signals run.now run.cells run.point (.replied reply)) := by
  have held := agrees.settle_stands
  obtain ⟨since, began⟩ := agrees.exists_pending calling pending
  have reads {after : Ledger}
      (enters : ledger.Enters plan.settings.channelTimeout run.now (.returned call reply) after) :=
    reads_ending (.returned · reply) calling pending enters
  cases atPoint : run.point with
  | entry | dialPause | setupPause | ready | closed =>
      rw [atPoint] at pending
      cases pending
  | releaseChannel channel connection? goal deadline =>
      rw [← atPoint]
      exact agrees.end_release_suits (.inl ⟨_, _, _, _, atPoint⟩)
        (fun _ _ _ _ => .returned reply) (.inr ⟨reply, rfl⟩)
  | releaseConnection connection goal deadline =>
      rw [← atPoint]
      exact agrees.end_release_suits (.inr ⟨_, _, _, atPoint⟩)
        (fun _ _ _ _ => .returned reply) (.inr ⟨reply, rfl⟩)
  | dial deadline =>
      rw [atPoint] at held pending
      cases pending
      cases reply with
      | error error =>
          exact ⟨_, reads (.unopened began rfl (.inl (.refused error))),
            suits_of_quiet rfl rfl held rfl trivial⟩
      | ok answer =>
          cases answer with
          | connection connection =>
              exact ⟨_, reads (.dialed began held.connection held.channel), setUp_suits
                ⟨rfl, rfl, held.channel, held.session, held.stored⟩⟩
          | _ => exact absurd (answers _ rfl) Bool.false_ne_true
  | setup connection stage deadline =>
      have empty := coherent.session_eq_none (by simp [atPoint])
      exact agrees.receive_setup_suits atPoint calling pending answers empty

private theorem timeOut_suits {deadline : Nat} (agrees : run.Agrees plan ledger)
    (coherent : run.IsCoherent) (waits : run.IsWaiting plan)
    (limit : run.point.deadline? = some deadline) (due : deadline ≤ run.now) :
    ∃ middle,
      ledger.Reads plan.settings.channelTimeout (run.endEntries plan .cutOff) middle ∧
      Suits plan run.now run.cells middle
        (Supervisor.react plan run.signals run.now run.cells run.point .expired) := by
  have held := agrees.settle_stands
  have late (since : Nat) (call : Call) (began : ledger.pending? = some (since, call))
      (closes : call.closes = true) :
      (Mark.cutOff call).Ends plan.settings.channelTimeout since run.now call := by
    have set := agrees.limit since call deadline began closes limit
    exact .cutOff (set ▸ due)
  have idle (quiet : run.point.call? plan = none) := agrees.reads_of_quiet .cutOff quiet
  cases atPoint : run.point with
  | entry | ready | closed =>
      rw [atPoint] at limit
      cases limit
  | releaseChannel channel connection? goal deadline =>
      rw [← atPoint]
      exact agrees.end_release_suits (.inl ⟨_, _, _, _, atPoint⟩) late (.inl rfl)
  | releaseConnection connection goal deadline =>
      rw [← atPoint]
      exact agrees.end_release_suits (.inr ⟨_, _, _, atPoint⟩) late (.inl rfl)
  | dial deadline =>
      have pending : run.point.call? plan = some (.connect plan.endpoint) := by rw [atPoint]; rfl
      have calling : run.isCalling = true := by rw [waits, pending]; rfl
      obtain ⟨since, began⟩ := agrees.exists_pending calling pending
      rw [atPoint] at held
      exact ⟨_, reads_ending _ calling pending (.unopened began rfl (.inl .cutOff)),
        suits_of_quiet rfl rfl held rfl trivial⟩
  | dialPause deadline =>
      rw [atPoint] at idle
      obtain ⟨reads, stands⟩ := idle rfl
      exact ⟨ledger, reads, dial_suits stands⟩
  | setup connection stage deadline =>
      rw [atPoint] at limit
      cases limit
      have empty := coherent.session_eq_none (by simp [atPoint])
      exact agrees.expire_setup_suits atPoint waits due empty
  | setupPause connection deadline =>
      rw [atPoint] at idle
      obtain ⟨reads, stands⟩ := idle rfl
      exact ⟨ledger, reads, setUp_suits stands⟩

end Agrees

/-! ## Runs -/

section

variable {plan : Plan} {run after : Run} {event : Event} {ledger : Ledger}

private theorem history_endCall (plan : Plan) (ending : Call → Mark) (run : Run) :
    (run.endCall plan ending).history = run.history ++ run.endEntries plan ending := by
  unfold endCall endEntries
  cases run.isCalling with
  | false => simp
  | true =>
      cases run.point.call? plan with
      | none => simp
      | some call => simp [record]

theorem history_makeCall (plan : Plan) (run : Run) :
    (run.makeCall plan).history =
      run.history ++ (run.point.call? plan).toList.map
        fun call => { time := run.now, mark := .called call } := by
  unfold makeCall
  split
  · next call pending => simp [pending, record]
  · next pending => simp [pending]

theorem isCalling_makeCall (idle : run.isCalling = false) :
    (run.makeCall plan).isCalling = (run.point.call? plan).isSome := by
  unfold makeCall
  split
  · next call pending => simp [pending]
  · next pending => simp [pending, idle]

theorem history_setCells (cells : SupervisorCells) (run : Run) :
    (run.setCells cells).history =
      run.history ++ if cells.sessionVersion = run.cells.sessionVersion then []
        else [{ time := run.now, mark := .wrote cells.session }] := by
  unfold setCells
  split <;> simp [record]

private theorem history_react (plan : Plan) (event : Event) (run : Run) :
    (run.react plan event).history =
      run.history ++
        (Supervisor.react plan run.signals run.now run.cells run.point event).entries plan run.now
          run.cells := by
  simp only [react]
  generalize Supervisor.react plan run.signals run.now run.cells run.point event = reaction
  have written := run.history_setCells reaction.cells
  have now : (run.setCells reaction.cells).now = run.now := by
    unfold setCells
    split <;> rfl
  cases next : reaction.next with
  | await point => simp [moveTo, written, Reaction.entries, next, Next.entries]
  | proceed point =>
      simp [moveTo, history_makeCall, written, now, Reaction.entries, next, Next.entries,
        Next.point]

theorem history_react_endCall (plan : Plan) (ending : Call → Mark) (event : Event) (run : Run) :
    ((run.endCall plan ending).react plan event).history =
      run.history ++ (run.endEntries plan ending ++
        (Supervisor.react plan run.signals run.now run.cells run.point event).entries plan run.now
          run.cells) := by
  obtain ⟨history, same⟩ := run.endCall_eq plan ending
  have told := run.history_endCall plan ending
  rw [same] at told ⊢
  rw [history_react, ← List.append_assoc, ← told]

private theorem isCalling_react (plan : Plan) (event : Event) (run : Run) :
    (run.react plan event).isCalling =
      (Supervisor.react plan run.signals run.now run.cells run.point event).next.calls plan := by
  simp only [react]
  generalize Supervisor.react plan run.signals run.now run.cells run.point event = reaction
  cases next : reaction.next with
  | await point => simp [moveTo, Next.calls]
  | proceed point => simp [moveTo, isCalling_makeCall, Next.calls, Next.point]

theorem setCells_eq (cells : SupervisorCells) (run : Run) :
    ∃ history, run.setCells cells = { run with cells, history } := by
  unfold setCells
  split
  · exact ⟨_, rfl⟩
  · exact ⟨_, rfl⟩

theorem endCall_react_eq (plan : Plan) (ending : Call → Mark) (event : Event) (run : Run) :
    (run.endCall plan ending).react plan event =
      let reaction := Supervisor.react plan run.signals run.now run.cells run.point event
      { run with
        cells := reaction.cells
        point := reaction.next.point
        looks := reaction.next.looks
        isCalling := reaction.next.calls plan
        history := run.history ++ (run.endEntries plan ending ++
          reaction.entries plan run.now run.cells) } := by
  have told := run.history_react_endCall plan ending event
  obtain ⟨ended, same⟩ := run.endCall_eq plan ending
  have calls := isCalling_react plan event { run with history := ended }
  rw [same] at told ⊢
  obtain ⟨isCalling, history, react⟩ : ∃ isCalling history,
      ({ run with history := ended } : Run).react plan event =
        { run with
          cells := (Supervisor.react plan run.signals run.now run.cells run.point event).cells
          point := (Supervisor.react plan run.signals run.now run.cells run.point event).next.point
          looks := (Supervisor.react plan run.signals run.now run.cells run.point event).next.looks
          isCalling
          history } := by
    simp only [Run.react]
    generalize Supervisor.react plan run.signals run.now run.cells run.point event = reaction
    obtain ⟨written, wrote⟩ := ({ run with history := ended } : Run).setCells_eq reaction.cells
    rw [wrote]
    cases next : reaction.next with
    | await point => exact ⟨_, _, rfl⟩
    | proceed point =>
        simp only [moveTo]
        obtain ⟨isCalling, history, made⟩ := makeCall_eq
          { run with
            cells := reaction.cells
            point := (Next.proceed point).point
            looks := (Next.proceed point).looks
            isCalling := false
            history := written } plan
        exact ⟨isCalling, history, made⟩
  rw [react] at told calls ⊢
  simp only at told calls
  rw [told, calls]

/-- There is a ledger that can be read off the history and agrees with the loop. -/
def IsKept (plan : Plan) (run : Run) : Prop :=
  ∃ ledger, Ledger.Reads plan.settings.channelTimeout {} run.history ledger ∧
    run.Agrees plan ledger

private theorem isKept_initial : ({} : Run).IsKept plan := by
  refine ⟨{}, .nothing, rfl, rfl, rfl, rfl, rfl, nofun, trivial, nofun⟩

theorem IsKept.congr (kept : run.IsKept plan) (history : after.history = run.history)
    (point : after.point = run.point) (isCalling : after.isCalling = run.isCalling)
    (session : after.cells.session = run.cells.session)
    (generations : after.cells.generations = run.cells.generations) : after.IsKept plan := by
  obtain ⟨ledger, reads, agrees⟩ := kept
  refine ⟨ledger, history ▸ reads, ?_⟩
  constructor <;> simp only [point, isCalling, session, generations]
  exacts [agrees.connection, agrees.channel, agrees.pending, agrees.session, agrees.stored,
    agrees.busy, agrees.fits, agrees.limit]

theorem Agrees.react {ending : Call → Mark}
    (reads : Ledger.Reads plan.settings.channelTimeout {} run.history ledger)
    (suits : ∃ middle,
      ledger.Reads plan.settings.channelTimeout (run.endEntries plan ending) middle ∧
      Suits plan run.now run.cells middle
        (Supervisor.react plan run.signals run.now run.cells run.point event)) :
    ((run.endCall plan ending).react plan event).IsKept plan := by
  obtain ⟨middle, ended, after, reacted, agrees⟩ := suits
  rw [endCall_react_eq]
  exact ⟨after, reads.trans (ended.trans reacted), agrees⟩

/-- A supervisor without a loop is closed by the one who shuts it down. -/
theorem IsKept.take (kept : run.IsKept plan) (coherent : run.IsCoherent)
    (absent : run.cells.handle = .absent) :
    ({ run.setCells run.cells.takeHandle with isEnding := false } : Run).IsKept plan := by
  obtain ⟨ledger, reads, agrees⟩ := kept
  have atEntry := coherent.unstarted absent
  have stands := agrees.stands_of_idle (.inr (by rw [atEntry]; rfl))
  rw [SupervisorCells.takeHandle_of_absent absent]
  refine ⟨{ ledger with session? := none }, ?_, ?_⟩
  · simpa [setCells, record] using reads.trans (.single (.withdrawn stands.idle))
  · obtain ⟨connection, channel, pending, session, stored, busy, fits, limit⟩ := agrees
    constructor <;> simp [setCells, record] <;> assumption

theorem IsKept.makeCall (kept : run.IsKept plan) (idle : run.isCalling = false) :
    (run.makeCall plan).IsKept plan := by
  cases pending : run.point.call? plan with
  | none =>
      have same : run.makeCall plan = run := by simp [Run.makeCall, pending]
      rw [same]
      exact kept
  | some call =>
      obtain ⟨ledger, reads, agrees⟩ := kept
      have stands := agrees.stands_of_idle (.inl idle)
      have quiet : run.point.isBusy = false := by
        by_contra busy
        cases idle.symm.trans (agrees.busy (by simpa using busy))
      have enters : ledger.Enters plan.settings.channelTimeout run.now (.called call)
            (ledger.begin run.now call) ∧ call.closes = false := by
        rcases Point.opening_of_call pending quiet with
          ⟨deadline, dialing⟩ | ⟨connection, deadline, opening⟩
        · rw [dialing] at stands pending
          cases pending
          exact ⟨.dial _ stands.idle stands.connection stands.channel, rfl⟩
        · rw [opening] at stands pending
          cases pending
          exact ⟨.openChannel stands.idle stands.connection stands.channel, rfl⟩
      refine ⟨ledger.begin run.now call, ?_, ?_⟩
      · rw [history_makeCall, pending]
        exact reads.entry enters.1
      · unfold Agrees
        rw [isCalling_makeCall idle, pending, point_makeCall, cells_makeCall]
        refine stands.begin_matches pending agrees.fits ?_
        intro deadline closes
        rw [enters.2] at closes
        cases closes

theorem IsKept.step (kept : run.IsKept plan) (coherent : run.IsCoherent)
    (step : Step plan run after) : after.IsKept plan := by
  cases step with
  | pass | signal | name | wake | poll | overlook => exact kept.congr rfl rfl rfl rfl rfl
  | start started =>
      obtain ⟨-, rfl⟩ := SupervisorCells.eq_of_start started
      exact kept.congr rfl rfl rfl rfl rfl
  | raise raised =>
      obtain ⟨-, rfl⟩ := SupervisorCells.eq_of_raiseShutdown raised
      exact kept.congr rfl rfl rfl rfl rfl
  | take ending =>
      cases handle : run.cells.handle with
      | present =>
          rw [SupervisorCells.takeHandle_of_present handle]
          refine kept.congr ?_ ?_ ?_ ?_ ?_ <;> simp [setCells]
      | absent => exact kept.take coherent handle
      | taken => exact absurd handle (coherent.ending ending).2
  | call idle overlooked => exact kept.makeCall idle
  | look started looks found =>
      obtain ⟨ledger, reads, agrees⟩ := kept
      exact Agrees.react reads (agrees.meet_suits found)
  | reply calling overlooked pending answers =>
      obtain ⟨ledger, reads, agrees⟩ := kept
      exact Agrees.react reads (agrees.receive_suits coherent calling pending answers)
  | expire waits overlooked limit due =>
      obtain ⟨ledger, reads, agrees⟩ := kept
      exact Agrees.react reads (agrees.timeOut_suits coherent waits limit due)

theorem isKept_of_reachable (reached : Reachable plan run) : run.IsKept plan := by
  induction reached with
  | refl => exact isKept_initial
  | tail before step ih => exact ih.step (isCoherent_of_reachable before) step

end

end Run

end AmqpClient.Supervisor
