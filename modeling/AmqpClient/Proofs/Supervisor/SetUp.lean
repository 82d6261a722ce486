import AmqpClient.Proofs.Supervisor.Session
import Mathlib.Data.List.Induction

/-!
# Published sessions are set up

A session is written to its cell right after the calls of one setup, all of them
on its own channel and all of them answered: the channel is opened, the queue is
looked up and declared if it is missing, the exchange too if routing is in use,
the queue is bound, and a producer's channel is put into confirm mode.
-/

set_option autoImplicit false

namespace AmqpClient.Supervisor

/-! ## The marks of a setup -/

/-- A call was made and answered. -/
def answered (call : Call) (answer : Answer) : List Mark :=
  [.called call, .returned call (.ok answer)]

/-- The queue was looked up, and declared if it was missing. -/
def queueMarks (topology : Topology) (channel : Nat) (isFound : Bool) : List Mark :=
  answered (.queueExists channel topology.queue) (.found isFound) ++
    if isFound then []
    else answered (.declareQueue channel topology.queue topology.queueArguments) .done

/-- The exchange was looked up, and declared if it was missing. -/
def exchangeLookUpMarks (topology : Topology) (channel : Nat) (isFound : Bool) : List Mark :=
  answered (.exchangeExists channel topology.exchange topology.kind) (.found isFound) ++
    if isFound then []
    else
      answered
        (.declareExchange channel topology.exchange topology.kind topology.exchangeArguments) .done

/-- Routing was put in place, if it is in use. -/
def routingMarks (topology : Topology) (channel : Nat) (isFound : Bool) : List Mark :=
  if topology.exchange ≠ "" ∧ topology.routingKey ≠ "" then
    exchangeLookUpMarks topology channel isFound ++
      answered (.bindQueue channel topology.queue topology.exchange topology.routingKey) .done
  else []

/-- A producer's channel was put into confirm mode. -/
def confirmMarks (role : ChannelRole) (channel : Nat) : List Mark :=
  match role with
  | .producer => answered (.confirmSelect channel) .done
  | .consumer => []

/-- All that comes before a session is published. -/
def setUpMarks (plan : Plan) (session : Session) (isQueueFound isExchangeFound : Bool) :
    List Mark :=
  answered (.openChannel session.connection) (.channel session.channel) ++
    queueMarks plan.topology session.channel isQueueFound ++
    routingMarks plan.topology session.channel isExchangeFound ++
    confirmMarks plan.role session.channel

def lastWritten (marks : List Mark) : Option Session :=
  marks.foldl (fun held mark => match mark with | .wrote written => written | _ => held) none

/-- Every session was written right after its setup. -/
def WritesSetUp (plan : Plan) (marks : List Mark) : Prop :=
  ∀ before session after, marks = before ++ .wrote (some session) :: after →
    ∃ isQueueFound isExchangeFound,
      setUpMarks plan session isQueueFound isExchangeFound <:+ before

theorem WritesSetUp.append {plan : Plan} {marks : List Mark} (sound : WritesSetUp plan marks)
    {mark : Mark}
    (justified : ∀ session, mark = .wrote (some session) →
      ∃ isQueueFound isExchangeFound,
        setUpMarks plan session isQueueFound isExchangeFound <:+ marks) :
    WritesSetUp plan (marks ++ [mark]) := by
  intro before session after split
  rcases after.eq_nil_or_concat with rfl | ⟨inner, last, rfl⟩
  · obtain ⟨rfl, same⟩ := List.append_inj' split rfl
    exact justified session (List.singleton_inj.mp same)
  · rw [List.concat_eq_append, ← List.cons_append, ← List.append_assoc] at split
    exact sound before session inner (List.append_inj' split rfl).1

/-! ## What has been done at each part of a setup -/

section

variable (topology : Topology) (channel : Nat)

/-- The marks that an installation leaves behind, up to where it stands. -/
inductive InstallTrail : Topology.InstallProgress → List Mark → Prop where
  | checkQueue : InstallTrail (.calling .checkQueue) []
  | declareQueue :
      InstallTrail (.calling .declareQueue)
        (answered (.queueExists channel topology.queue) (.found false))
  | checkExchange (isQueueFound : Bool) : topology.usesExchange = true →
      InstallTrail (.calling .checkExchange) (queueMarks topology channel isQueueFound)
  | declareExchange (isQueueFound : Bool) : topology.usesExchange = true →
      InstallTrail (.calling .declareExchange)
        (queueMarks topology channel isQueueFound ++
          answered (.exchangeExists channel topology.exchange topology.kind) (.found false))
  | bindQueue (isQueueFound isExchangeFound : Bool) : topology.usesExchange = true →
      InstallTrail (.calling .bindQueue)
        (queueMarks topology channel isQueueFound ++
          exchangeLookUpMarks topology channel isExchangeFound)
  | finished (isQueueFound isExchangeFound : Bool) :
      InstallTrail (.finished (.ok ()))
        (queueMarks topology channel isQueueFound ++
          routingMarks topology channel isExchangeFound)
  | failed (error : ClientError) (marks : List Mark) :
      InstallTrail (.finished (.error error)) marks

variable {topology channel}

theorem routingMarks_of_uses (uses : topology.usesExchange = true) (isFound : Bool) :
    routingMarks topology channel isFound =
      exchangeLookUpMarks topology channel isFound ++
        answered (.bindQueue channel topology.queue topology.exchange topology.routingKey)
          .done := by
  simp only [Topology.usesExchange, Bool.and_eq_true, decide_eq_true_eq] at uses
  simp [routingMarks, uses]

private theorem routingMarks_of_not_uses (unused : topology.usesExchange = false) (isFound : Bool) :
    routingMarks topology channel isFound = [] := by
  simp only [Topology.usesExchange, Bool.and_eq_false_iff, decide_eq_false_iff_not] at unused
  refine if_neg ?_
  rintro ⟨named, keyed⟩
  exact unused.elim (· named) (· keyed)

private theorem beginInstall_trail : InstallTrail topology channel topology.beginInstall [] := by
  unfold Topology.beginInstall
  split
  · exact .checkQueue
  · exact .failed _ _

private theorem installExchange_trail (topology : Topology) (channel : Nat) (isQueueFound : Bool) :
    InstallTrail topology channel topology.installExchange
      (queueMarks topology channel isQueueFound) := by
  unfold Topology.installExchange
  split
  · next uses => exact .checkExchange isQueueFound uses
  · next unused =>
    have done : InstallTrail topology channel _ _ := .finished isQueueFound true
    simpa [routingMarks_of_not_uses (Bool.eq_false_iff.mpr unused)] using done

theorem InstallTrail.after {step : Topology.InstallStep} {marks : List Mark} {answer : Answer}
    (trail : InstallTrail topology channel (.calling step) marks)
    (answers : answer.answers (step.call topology channel) = true) :
    InstallTrail topology channel (topology.afterInstallStep answer step)
      (marks ++ answered (step.call topology channel) answer) := by
  cases trail with
  | checkQueue =>
      cases answer with
      | found isFound =>
          cases isFound with
          | true =>
              simpa [queueMarks, Topology.afterInstallStep, Topology.InstallStep.call,
                Answer.isFound] using installExchange_trail topology channel true
          | false => exact .declareQueue
      | _ => exact absurd answers Bool.false_ne_true
  | declareQueue =>
      cases answer with
      | done =>
          simpa [queueMarks, Topology.afterInstallStep, Topology.InstallStep.call] using
            installExchange_trail topology channel false
      | _ => exact absurd answers Bool.false_ne_true
  | checkExchange isQueueFound uses =>
      cases answer with
      | found isFound =>
          cases isFound with
          | true =>
              have bound : InstallTrail topology channel _ _ := .bindQueue isQueueFound true uses
              simpa [exchangeLookUpMarks, Topology.afterInstallStep, Topology.InstallStep.call,
                Answer.isFound] using bound
          | false => exact .declareExchange isQueueFound uses
      | _ => exact absurd answers Bool.false_ne_true
  | declareExchange isQueueFound uses =>
      cases answer with
      | done =>
          have bound : InstallTrail topology channel _ _ := .bindQueue isQueueFound false uses
          simpa [exchangeLookUpMarks, Topology.afterInstallStep, Topology.InstallStep.call] using
            bound
      | _ => exact absurd answers Bool.false_ne_true
  | bindQueue isQueueFound isExchangeFound uses =>
      cases answer with
      | done =>
          have done : InstallTrail topology channel _ _ :=
            .finished isQueueFound isExchangeFound
          simpa [routingMarks_of_uses uses, Topology.afterInstallStep,
            Topology.InstallStep.call] using done
      | _ => exact absurd answers Bool.false_ne_true

end

/-- The marks that a setup leaves behind, up to its part that is under way. Nothing is
asked of a setup that has failed. -/
inductive SetupTrail (plan : Plan) (connection : Nat) : Stage → List Mark → Prop where
  | openChannel : SetupTrail plan connection .openChannel []
  | install {channel : Nat} {step : Topology.InstallStep} {marks : List Mark}
      (trail : InstallTrail plan.topology channel (.calling step) marks) :
      SetupTrail plan connection (.install channel step)
        (answered (.openChannel connection) (.channel channel) ++ marks)
  | confirmSelect (channel : Nat) (isQueueFound isExchangeFound : Bool)
      (isProducer : plan.role = .producer) :
      SetupTrail plan connection (.confirmSelect channel)
        (answered (.openChannel connection) (.channel channel) ++
          (queueMarks plan.topology channel isQueueFound ++
            routingMarks plan.topology channel isExchangeFound))
  | discard (channel : Nat) (cause : ClientError) :
      SetupTrail plan connection (.discard channel cause) []

/-! ## Reactions -/

/-- A reaction that leads into a setup, or publishes a session, has the marks for it. -/
structure Fits (plan : Plan) (cells : SupervisorCells) (marks : List Mark) (reaction : Reaction) :
    Prop where
  held : reaction.cells.sessionVersion = cells.sessionVersion →
    reaction.cells.session = cells.session
  setup : ∀ connection stage deadline, reaction.next.point = .setup connection stage deadline →
    reaction.cells.sessionVersion = cells.sessionVersion ∧
      ∃ trail, SetupTrail plan connection stage trail ∧ trail <:+ marks
  publish : reaction.cells.sessionVersion ≠ cells.sessionVersion →
    ∀ session, reaction.cells.session = some session →
      ∃ isQueueFound isExchangeFound,
        setUpMarks plan session isQueueFound isExchangeFound <:+ marks

section

variable (plan : Plan) (signals : Signals) (now : Nat) (cells : SupervisorCells)
  (marks : List Mark)

private theorem fits_of_keep {reaction : Reaction}
    (session : reaction.cells.session = cells.session)
    (version : reaction.cells.sessionVersion = cells.sessionVersion)
    (away : ∀ connection stage deadline,
      reaction.next.point ≠ .setup connection stage deadline) :
    Fits plan cells marks reaction where
  held _ := session
  setup connection stage deadline leads := absurd leads (away connection stage deadline)
  publish changed := absurd version changed

private theorem fits_of_withdraw {reaction : Reaction} (session : reaction.cells.session = none)
    (version : cells.sessionVersion < reaction.cells.sessionVersion)
    (away : ∀ connection stage deadline,
      reaction.next.point ≠ .setup connection stage deadline) :
    Fits plan cells marks reaction where
  held same := absurd same.symm (Nat.ne_of_lt version)
  setup connection stage deadline leads := absurd leads (away connection stage deadline)
  publish _ published stored := by simp [session] at stored

private theorem fits_of_setup {reaction : Reaction} {connection : Nat} {stage : Stage}
    {deadline : Nat}
    {trail : List Mark} (session : reaction.cells.session = cells.session)
    (version : reaction.cells.sessionVersion = cells.sessionVersion)
    (leads : reaction.next.point = .setup connection stage deadline)
    (follows : SetupTrail plan connection stage trail) (left : trail <:+ marks) :
    Fits plan cells marks reaction where
  held _ := session
  setup other otherStage limit same := by
    rw [leads] at same
    cases same
    exact ⟨version, trail, follows, left⟩
  publish changed := absurd version changed

private theorem finish_fits (channel? connection? : Option Nat) :
    Fits plan cells marks (finish plan now channel? connection? cells) := by
  cases channel? with
  | some channel =>
      exact fits_of_withdraw plan cells marks rfl (Nat.lt_succ_self _)
        (by simp [finish, Next.point])
  | none =>
      cases connection? with
      | some connection =>
          exact fits_of_withdraw plan cells marks rfl (Nat.lt_succ_self _)
            (by simp [finish, Next.point])
      | none =>
          exact fits_of_withdraw plan cells marks rfl (Nat.lt_succ_self _)
            (by simp [finish, conclude, Next.point])

private theorem dial_fits : Fits plan cells marks (dial plan now cells) := by
  unfold dial
  split
  · exact finish_fits plan now cells marks none none
  · exact fits_of_keep plan cells marks rfl rfl (by simp [Next.point])

private theorem setUp_fits (connection : Nat) :
    Fits plan cells marks (setUp plan signals now connection cells) := by
  unfold setUp
  dsimp only
  split
  · exact fits_of_keep plan cells marks rfl rfl (by simp [redial, Next.point])
  · exact fits_of_setup plan cells marks rfl rfl rfl .openChannel List.nil_suffix

private theorem arrive_fits (goal : Goal) :
    Fits plan cells marks (arrive plan signals now goal cells) := by
  cases goal with
  | dial => exact dial_fits plan now cells marks
  | setup connection => exact setUp_fits plan signals now cells marks connection
  | finish => exact fits_of_keep plan cells marks rfl rfl (by simp [arrive, conclude, Next.point])

private theorem discard_fits (connection channel : Nat) (cause : ClientError)
    (notices : List Notice) :
    Fits plan cells marks (discard plan now connection channel cause cells notices) :=
  fits_of_setup plan cells marks rfl rfl rfl (.discard channel cause) List.nil_suffix

variable {marks}

private theorem publishSession_fits {connection channel : Nat} (isQueueFound isExchangeFound : Bool)
    (left : setUpMarks plan { generation := cells.generations + 1, connection, channel }
      isQueueFound isExchangeFound <:+ marks) :
    Fits plan cells marks (publishSession connection channel cells) where
  held same := absurd same (Nat.succ_ne_self _)
  setup := by simp [publishSession, Next.point]
  publish _ session stored := by
    cases stored
    exact ⟨isQueueFound, isExchangeFound, left⟩

private theorem installed_fits {connection channel : Nat} {isQueueFound isExchangeFound : Bool}
    (left : answered (.openChannel connection) (.channel channel) ++
      (queueMarks plan.topology channel isQueueFound ++
        routingMarks plan.topology channel isExchangeFound) <:+ marks) :
    Fits plan cells marks (installed plan now connection channel cells) := by
  unfold installed
  split
  · next isProducer =>
    exact fits_of_setup plan cells marks rfl rfl rfl (.confirmSelect channel _ _ isProducer) left
  · next isConsumer =>
    refine publishSession_fits plan cells isQueueFound isExchangeFound ?_
    simpa [setUpMarks, confirmMarks, isConsumer] using left

private theorem continueInstall_fits {connection channel : Nat}
    {progress : Topology.InstallProgress}
    {trail : List Mark} (follows : InstallTrail plan.topology channel progress trail)
    (left : answered (.openChannel connection) (.channel channel) ++ trail <:+ marks)
    (deadline : Nat) (notices : List Notice) :
    Fits plan cells marks
      (continueInstall plan now connection channel deadline progress cells notices) := by
  match progress with
  | .calling step => exact fits_of_setup plan cells marks rfl rfl rfl (.install follows) left
  | .finished (.ok ()) =>
      cases follows with
      | finished isQueueFound isExchangeFound => exact installed_fits plan now cells left
  | .finished (.error error) => exact discard_fits plan now cells marks connection channel error _

private theorem setupReplied_fits {connection : Nat} {stage : Stage} {deadline : Nat} {call : Call}
    {reply : Reply} {trail : List Mark} (follows : SetupTrail plan connection stage trail)
    (pending : (Point.setup connection stage deadline).call? plan = some call)
    (answers : ∀ answer, reply = .ok answer → answer.answers call = true)
    (left : trail ++ [.called call, .returned call reply] <:+ marks) :
    Fits plan cells marks (setupReplied plan now connection stage deadline reply cells) := by
  cases follows with
  | openChannel =>
      cases pending
      cases reply with
      | error error =>
          exact fits_of_keep plan cells marks rfl rfl
            (by simp [setupReplied, setupFailed, Next.point])
      | ok answer =>
          cases answer with
          | channel channel =>
              have opened :
                  answered (.openChannel connection) (.channel channel) ++ [] <:+ marks := by
                simpa [answered] using left
              exact continueInstall_fits plan now cells beginInstall_trail opened _ _
          | _ => exact absurd (answers _ rfl) Bool.false_ne_true
  | install installs =>
      cases pending
      cases reply with
      | error error =>
          exact discard_fits plan now cells marks connection _ error _
      | ok answer =>
          exact continueInstall_fits plan now cells (installs.after (answers _ rfl))
            (by simpa [answered] using left) _ _
  | confirmSelect channel isQueueFound isExchangeFound isProducer =>
      cases pending
      cases reply with
      | error error => exact discard_fits plan now cells marks connection channel error []
      | ok answer =>
          cases answer with
          | done =>
              refine publishSession_fits plan cells isQueueFound isExchangeFound ?_
              simpa [setUpMarks, confirmMarks, isProducer, answered] using left
          | _ => exact absurd (answers _ rfl) Bool.false_ne_true
  | discard channel cause =>
      exact fits_of_keep plan cells marks rfl rfl
        (by simp [setupReplied, setupFailed, Next.point])

variable (marks)

private theorem setupExpired_fits (connection : Nat) (stage : Stage) :
    Fits plan cells marks (setupExpired plan now connection stage cells) := by
  cases stage with
  | openChannel | discard =>
      exact fits_of_keep plan cells marks rfl rfl
        (by simp [setupExpired, setupFailed, Next.point])
  | install channel step => exact discard_fits plan now cells marks connection channel _ []
  | confirmSelect channel => exact discard_fits plan now cells marks connection channel _ []

private theorem leaveReady_fits (session : Session) (event : Event) :
    Fits plan cells marks (leaveReady plan now session event cells) := by
  cases event with
  | shutdown =>
      have newer : cells.sessionVersion < cells.sessionVersion + 2 := by omega
      exact fits_of_withdraw plan cells marks rfl newer (by simp [leaveReady, finish, Next.point])
  | connectionClosed reason | channelClosed reason =>
      exact fits_of_withdraw plan cells marks rfl (Nat.lt_succ_self _)
        (by simp [leaveReady, Next.point])
  | reconnect =>
      by_cases meant : cells.requested = session.generation
      · exact fits_of_withdraw plan cells marks
          (by simp [leaveReady, meant, SupervisorCells.setSession])
          (by simp [leaveReady, meant, SupervisorCells.setSession])
          (by simp [leaveReady, meant, Next.point])
      · exact fits_of_keep plan cells marks (by simp [leaveReady, meant])
          (by simp [leaveReady, meant]) (by simp [leaveReady, meant, Next.point])
  | begin | replied _ | expired =>
      exact fits_of_keep plan cells marks rfl rfl (by simp [leaveReady, Next.point])

/-- Events that can end the part of a setup. -/
def Event.endsSetup : Event → Bool
  | .shutdown | .connectionClosed _ | .replied _ | .expired => true
  | .begin | .channelClosed _ | .reconnect => false

/-- At a setup, the event is one that can end its part; if its call has returned, this
is the last thing that has happened. -/
structure Accounts (point : Point) (event : Event) (marks : List Mark) : Prop where
  ends : ∀ connection stage deadline, point = .setup connection stage deadline →
    event.endsSetup = true
  replied : ∀ connection stage deadline reply, point = .setup connection stage deadline →
    event = .replied reply →
    ∃ trail call, SetupTrail plan connection stage trail ∧ point.call? plan = some call ∧
      (∀ answer, reply = .ok answer → answer.answers call = true) ∧
      trail ++ [.called call, .returned call reply] <:+ marks

variable {marks}

private theorem react_fits {point : Point} {event : Event}
    (accounts : Accounts plan point event marks) :
    Fits plan cells marks (react plan signals now cells point event) := by
  have stay (away : ∀ connection stage deadline, point ≠ .setup connection stage deadline) :
      Fits plan cells marks { cells, next := .await point } :=
    fits_of_keep plan cells marks rfl rfl away
  cases point with
  | entry =>
      cases event with
      | begin => exact dial_fits plan now cells marks
      | _ => exact stay (by simp)
  | releaseChannel channel connection? goal deadline =>
      cases event with
      | replied _ | expired =>
          cases connection? with
          | some connection =>
              exact fits_of_keep plan cells marks rfl rfl (by simp [react, Next.point])
          | none => exact arrive_fits plan signals now cells marks goal
      | _ => exact stay (by simp)
  | releaseConnection connection goal deadline =>
      cases event with
      | replied _ | expired => exact arrive_fits plan signals now cells marks goal
      | _ => exact stay (by simp)
  | dial deadline =>
      cases event with
      | shutdown => exact finish_fits plan now cells marks none none
      | replied reply =>
          cases reply with
          | ok answer => exact setUp_fits plan signals now cells marks answer.id
          | error error =>
              exact fits_of_keep plan cells marks rfl rfl (by simp [react, dialFailed, Next.point])
      | expired =>
          exact fits_of_keep plan cells marks rfl rfl (by simp [react, dialFailed, Next.point])
      | _ => exact stay (by simp)
  | dialPause deadline =>
      cases event with
      | shutdown => exact finish_fits plan now cells marks none none
      | expired => exact dial_fits plan now cells marks
      | _ => exact stay (by simp)
  | setup connection stage deadline =>
      cases event with
      | shutdown => exact finish_fits plan now cells marks none (some connection)
      | connectionClosed reason =>
          exact fits_of_keep plan cells marks rfl rfl (by simp [react, redial, Next.point])
      | replied reply =>
          obtain ⟨trail, call, follows, pending, answers, left⟩ :=
            accounts.replied connection stage deadline reply rfl rfl
          exact setupReplied_fits plan now cells follows pending answers left
      | expired => exact setupExpired_fits plan now cells marks connection stage
      | begin | channelClosed _ | reconnect =>
          exact absurd (accounts.ends connection stage deadline rfl) Bool.false_ne_true
  | setupPause connection deadline =>
      cases event with
      | shutdown => exact finish_fits plan now cells marks none (some connection)
      | expired => exact setUp_fits plan signals now cells marks connection
      | _ => exact stay (by simp)
  | ready session => exact leaveReady_fits plan now cells marks session event
  | closed => exact stay (by simp)

end

/-! ## Runs -/

private theorem lastWritten_append (marks : List Mark) (mark : Mark) :
    lastWritten (marks ++ [mark]) =
      match mark with | .wrote written => written | _ => lastWritten marks := by
  simp only [lastWritten, List.foldl_append, List.foldl_cons, List.foldl_nil]

theorem wrote_of_lastWritten {marks : List Mark} {session : Session}
    (last : lastWritten marks = some session) :
    .wrote (some session) ∈ marks := by
  induction marks using List.reverseRecOn with
  | nil => cases last
  | append_singleton earlier mark ih =>
      rw [lastWritten_append] at last
      refine List.mem_append.mpr ?_
      cases mark with
      | wrote session? =>
          cases last
          exact .inr (List.mem_singleton.mpr rfl)
      | called | returned | cutOff | abandoned => exact .inl (ih last)

private theorem interrupt?_endsSetup {signals : Signals} {cells : SupervisorCells} {event : Event}
    {connection deadline : Nat} {stage : Stage}
    (found : (Point.setup connection stage deadline).interrupt? signals cells = some event) :
    event.endsSetup = true := by
  simp only [Point.interrupt?] at found
  split at found
  · cases found
    rfl
  · obtain ⟨reason, -, rfl⟩ := Option.map_eq_some_iff.mp found
    rfl

private theorem interrupt?_ne_replied {signals : Signals} {cells : SupervisorCells} {point : Point}
    {reply : Reply} : point.interrupt? signals cells ≠ some (.replied reply) := by
  intro found
  cases Point.finds_of_interrupt? found

namespace Run

/-- The history tells which session is in the cell, and that each one was set up. -/
structure IsRecorded (plan : Plan) (run : Run) : Prop where
  held : run.cells.session = lastWritten run.marks
  sound : WritesSetUp plan run.marks

/-- The history tells besides how far the setup under way has come. -/
structure IsAccounted (plan : Plan) (run : Run) : Prop extends run.IsRecorded plan where
  setup : ∀ connection stage deadline, run.point = .setup connection stage deadline →
    ∃ trail, SetupTrail plan connection stage trail ∧
      ∀ call, run.point.call? plan = some call →
        (if run.isCalling then trail ++ [.called call] else trail) <:+ run.marks

section

variable {plan : Plan} {run after : Run} {cells : SupervisorCells} {trail : List Mark}

private theorem marks_setCells_of_same (same : cells.sessionVersion = run.cells.sessionVersion) :
    (run.setCells cells).marks = run.marks := by
  simp [setCells, same, marks]

private theorem marks_setCells_of_changed
    (changed : cells.sessionVersion ≠ run.cells.sessionVersion) :
    (run.setCells cells).marks = run.marks ++ [.wrote cells.session] := by
  simp [setCells, changed, marks, Run.record]

theorem marks_makeCall (plan : Plan) (run : Run) :
    (run.makeCall plan).marks = run.marks ++ ((run.point.call? plan).map Mark.called).toList := by
  unfold makeCall
  split
  · next call pending => simp [pending, marks, Run.record]
  · next pending => simp [pending]

private theorem marks_endCall {ending : Call → Mark} {call : Call} (calling : run.isCalling = true)
    (pending : run.point.call? plan = some call) :
    (run.endCall plan ending).marks = run.marks ++ [ending call] := by
  simp [endCall, calling, pending]

private theorem makeCall_trail (left : trail <:+ run.marks) (call : Call)
    (pending : (run.makeCall plan).point.call? plan = some call) :
    (if (run.makeCall plan).isCalling then trail ++ [.called call] else trail) <:+
      (run.makeCall plan).marks := by
  rw [point_makeCall] at pending
  obtain ⟨earlier, same⟩ := left
  rw [marks_makeCall]
  simp only [makeCall, pending]
  exact ⟨earlier, by simp [← same]⟩

private theorem moveTo_trail (next : Next) (left : trail <:+ run.marks) (call : Call)
    (pending : (run.moveTo plan next).point.call? plan = some call) :
    (if (run.moveTo plan next).isCalling then trail ++ [.called call] else trail) <:+
      (run.moveTo plan next).marks := by
  cases next with
  | await point => exact left
  | proceed point =>
      let moved : Run := { run with point, looks := false, isCalling := false }
      have led : trail <:+ moved.marks := left
      exact makeCall_trail led call pending

theorem IsRecorded.congr (recorded : run.IsRecorded plan)
    (session : after.cells.session = run.cells.session) (history : after.history = run.history) :
    after.IsRecorded plan where
  held := by simpa [session, marks, history] using recorded.held
  sound := by simpa [marks, history] using recorded.sound

theorem IsRecorded.record {mark : Mark} (recorded : run.IsRecorded plan)
    (unwritten : ∀ session?, mark ≠ .wrote session?) : (run.record mark).IsRecorded plan where
  held := by
    rw [marks_record, lastWritten_append]
    cases mark with
    | wrote session? => exact absurd rfl (unwritten session?)
    | _ => exact recorded.held
  sound := by
    rw [marks_record]
    exact recorded.sound.append fun session same => absurd same (unwritten _)

theorem IsRecorded.setCells (recorded : run.IsRecorded plan)
    (held : cells.sessionVersion = run.cells.sessionVersion → cells.session = run.cells.session)
    (publish : cells.sessionVersion ≠ run.cells.sessionVersion →
      ∀ session, cells.session = some session →
        ∃ isQueueFound isExchangeFound,
          setUpMarks plan session isQueueFound isExchangeFound <:+ run.marks) :
    (run.setCells cells).IsRecorded plan := by
  by_cases same : cells.sessionVersion = run.cells.sessionVersion
  · constructor
    · rw [cells_setCells, held same, marks_setCells_of_same same]
      exact recorded.held
    · rw [marks_setCells_of_same same]
      exact recorded.sound
  · constructor
    · rw [cells_setCells, marks_setCells_of_changed same, lastWritten_append]
    · rw [marks_setCells_of_changed same]
      refine recorded.sound.append ?_
      intro session written
      exact publish same session (Mark.wrote.inj written)

theorem IsRecorded.makeCall (recorded : run.IsRecorded plan) :
    (run.makeCall plan).IsRecorded plan := by
  unfold Run.makeCall
  split
  · next call _ =>
    have called : (run.record (.called call)).IsRecorded plan := recorded.record nofun
    exact called.congr rfl rfl
  · exact recorded

theorem IsRecorded.endCall (recorded : run.IsRecorded plan) {ending : Call → Mark}
    (unwritten : ∀ call session?, ending call ≠ .wrote session?) :
    (run.endCall plan ending).IsRecorded plan := by
  unfold Run.endCall
  split
  · exact recorded.record (unwritten _)
  · exact recorded

theorem IsRecorded.moveTo (recorded : run.IsRecorded plan) (next : Next) :
    (run.moveTo plan next).IsRecorded plan := by
  cases next with
  | await point => exact recorded.congr rfl rfl
  | proceed point => exact IsRecorded.makeCall (recorded.congr rfl rfl)

theorem IsRecorded.react {event : Event} (recorded : run.IsRecorded plan)
    (accounts : Accounts plan run.point event run.marks) :
    (run.react plan event).IsAccounted plan := by
  have fits := react_fits plan run.signals run.now run.cells accounts
  refine ⟨(recorded.setCells fits.held fits.publish).moveTo _, ?_⟩
  intro connection stage deadline leads
  rw [Run.react, point_moveTo] at leads
  obtain ⟨version, trail, follows, left⟩ := fits.setup connection stage deadline leads
  rw [← marks_setCells_of_same version] at left
  exact ⟨trail, follows, moveTo_trail _ left⟩

private theorem isAccounted_initial : ({} : Run).IsAccounted plan where
  held := rfl
  sound before session after split := by simp [marks] at split
  setup := nofun

theorem IsAccounted.congr (accounted : run.IsAccounted plan)
    (session : after.cells.session = run.cells.session) (history : after.history = run.history)
    (point : after.point = run.point) (isCalling : after.isCalling = run.isCalling) :
    after.IsAccounted plan where
  toIsRecorded := accounted.toIsRecorded.congr session history
  setup := by simpa [point, isCalling, marks, history] using accounted.setup

theorem IsAccounted.step (accounted : run.IsAccounted plan) (coherent : run.IsCoherent)
    (step : Step plan run after) : after.IsAccounted plan := by
  cases step with
  | pass | signal | name | wake | poll | overlook => exact accounted.congr rfl rfl rfl rfl
  | start started =>
      obtain ⟨-, rfl⟩ := SupervisorCells.eq_of_start started
      exact accounted.congr rfl rfl rfl rfl
  | raise raised =>
      obtain ⟨-, rfl⟩ := SupervisorCells.eq_of_raiseShutdown raised
      exact accounted.congr rfl rfl rfl rfl
  | take ending =>
      cases handle : run.cells.handle with
      | present =>
          rw [SupervisorCells.takeHandle_of_present handle]
          refine accounted.congr ?_ ?_ ?_ ?_ <;> simp [Run.setCells]
      | absent =>
          have atEntry := coherent.unstarted handle
          rw [SupervisorCells.takeHandle_of_absent handle]
          refine ⟨(accounted.toIsRecorded.setCells ?_ ?_).congr rfl rfl, ?_⟩
          · simp
          · simp
          · simp [atEntry]
      | taken => exact absurd handle (coherent.ending ending).2
  | call idle overlooked =>
      refine ⟨accounted.toIsRecorded.makeCall, ?_⟩
      intro connection stage deadline atSetup
      rw [point_makeCall] at atSetup
      obtain ⟨trail, follows, left⟩ := accounted.setup connection stage deadline atSetup
      refine ⟨trail, follows, fun call pending => makeCall_trail ?_ call pending⟩
      simpa [idle] using left call (by simpa using pending)
  | look started looks found =>
      refine (accounted.toIsRecorded.endCall (by simp)).react ⟨?_, ?_⟩
      · intro connection stage deadline atSetup
        rw [point_endCall] at atSetup
        rw [atSetup] at found
        exact interrupt?_endsSetup found
      · rintro connection stage deadline reply - rfl
        exact absurd found interrupt?_ne_replied
  | @reply call reply calling overlooked pending answers =>
      refine (accounted.toIsRecorded.endCall (by simp)).react ⟨fun _ _ _ _ => rfl, ?_⟩
      intro connection stage deadline given atSetup same
      cases same
      rw [point_endCall] at atSetup ⊢
      obtain ⟨trail, follows, left⟩ := accounted.setup connection stage deadline atSetup
      obtain ⟨earlier, split⟩ := left call pending
      refine ⟨trail, call, follows, pending, answers, earlier, ?_⟩
      rw [marks_endCall calling pending, ← split]
      simp [calling]
  | expire waits overlooked limit due =>
      exact (accounted.toIsRecorded.endCall (by simp)).react ⟨fun _ _ _ _ => rfl, by simp⟩

theorem isAccounted_of_reachable (reached : Reachable plan run) : run.IsAccounted plan := by
  induction reached with
  | refl => exact isAccounted_initial
  | tail before step ih => exact ih.step (isCoherent_of_reachable before) step

end

end Run

/-- The session in the cell is the one that was written last, and before each write of a
session stands the complete setup of its channel, with nothing in between. -/
theorem published_after_setUp {plan : Plan} {run : Run} (reached : Reachable plan run) :
    run.cells.session = lastWritten run.marks ∧
      ∀ before session after, run.marks = before ++ .wrote (some session) :: after →
        ∃ isQueueFound isExchangeFound,
          setUpMarks plan session isQueueFound isExchangeFound <:+ before :=
  have accounted := Run.isAccounted_of_reachable reached
  ⟨accounted.held, accounted.sound⟩

def routed : Plan :=
  { endpoint := default
    topology := ((Topology.ofQueue "jobs").withExchange "events" .direct).withRoutingKey "new"
    role := .producer }

/-- Its first session is ready: the queue was missing, the exchange was not. -/
def routedReady : Run :=
  let started : Run := { cells := { handle := .present } }
  let dialing := (started.meet routed .begin).turn.makeCall routed
  let connected := (dialing.receive routed (.ok (.connection 0))).turn.makeCall routed
  let opened := connected.receive routed (.ok (.channel 0))
  let declared := (opened.receive routed (.ok (.found false))).receive routed (.ok .done)
  let bound := (declared.receive routed (.ok (.found true))).receive routed (.ok .done)
  bound.receive routed (.ok .done)

theorem reachable_routedReady : Reachable routed routedReady := by
  have started : Step routed {} { cells := { handle := .present } } := .start rfl
  have begun := Relation.ReflTransGen.single started |>.tail (.look (by decide) rfl rfl)
  have dialing := (begun.tail (.overlook rfl rfl)).tail (.call rfl rfl)
  have connected := dialing.tail (.answered (.connection 0) rfl rfl rfl rfl)
  have opening := (connected.tail (.overlook rfl rfl)).tail (.call rfl rfl)
  have opened := opening.tail (.answered (.channel 0) rfl rfl rfl rfl)
  have missed := opened.tail (.answered (.found false) rfl rfl rfl rfl)
  have declared := missed.tail (.answered .done rfl rfl rfl rfl)
  have found := declared.tail (.answered (.found true) rfl rfl rfl rfl)
  have bound := found.tail (.answered .done rfl rfl rfl rfl)
  exact bound.tail (.answered .done rfl rfl rfl rfl)

theorem published_after_setUp_routed :
    routedReady.cells.session = some { generation := 1, connection := 0, channel := 0 } ∧
      Reachable routed routedReady ∧
      routedReady.cells.session = lastWritten routedReady.marks ∧
      ∀ before session after, routedReady.marks = before ++ .wrote (some session) :: after →
        ∃ isQueueFound isExchangeFound,
          setUpMarks routed session isQueueFound isExchangeFound <:+ before :=
  ⟨rfl, reachable_routedReady, published_after_setUp reachable_routedReady⟩

end AmqpClient.Supervisor
