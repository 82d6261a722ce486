import AmqpClient.Proofs.Supervisor.Unwinding

/-!
# Where the loop turns to

Each reaction leads on in one of a few ways, and each way has its occasion: a dial, the
pause after one that failed, the setup of a channel and what may follow it, the leave
of a connection or of a channel, and the end. What is done later on account of a
reaction can be told from these occasions.
-/

set_option autoImplicit false

namespace AmqpClient

/-- Only a topology that is not valid is refused without a call. -/
theorem Topology.invalid_of_beginInstall {topology : Topology} {error : ClientError}
    (refused : topology.beginInstall = .finished (.error error)) :
    topology.validate = .error error := by
  unfold beginInstall at refused
  split at refused
  · cases refused
  · next told =>
    cases refused
    exact told

theorem Topology.afterInstallStep_ne_error (topology : Topology) (answer : Answer)
    (step : InstallStep) (error : ClientError) :
    topology.afterInstallStep answer step ≠ .finished (.error error) := by
  have exchange : topology.installExchange ≠ .finished (.error error) := by
    unfold installExchange
    split <;> simp
  cases step with
  | checkQueue =>
      dsimp only [afterInstallStep]
      split
      · exact exchange
      · simp
  | declareQueue => exact exchange
  | checkExchange | declareExchange | bindQueue => simp [afterInstallStep]

namespace Supervisor

namespace Event

/-- A call has returned, or a limit is reached. -/
def isEnd : Event → Bool
  | .replied _ | .expired => true
  | _ => false

/-- A call has failed, or a limit is reached. -/
def isFailure : Event → Bool
  | .replied (.error _) | .expired => true
  | _ => false

theorem isEnd_of_isFailure {event : Event} (failed : event.isFailure = true) :
    event.isEnd = true := by
  cases event with
  | replied reply | expired => rfl
  | _ => cases failed

end Event

namespace Point

/-- The connection that is released so that another one can be dialed. -/
def drops? : Point → Option Nat
  | .releaseChannel _ connection? .dial _ => connection?
  | .releaseConnection connection .dial _ => some connection
  | _ => none

/-- All that is held is released for good, or nothing is held any more. -/
def isLast : Point → Bool
  | .releaseChannel _ _ .finish _ | .releaseConnection _ .finish _ | .closed => true
  | _ => false

private theorem isUninterrupted_of_isLast {point : Point} (last : point.isLast = true) :
    point.IsUninterrupted := by
  cases point with
  | releaseChannel | releaseConnection => exact .inl rfl
  | closed => exact .inr rfl
  | _ => cases last

theorem isRelease_of_drops? {point : Point} {connection : Nat}
    (dropped : point.drops? = some connection) : point.isRelease = true := by
  cases point with
  | releaseChannel | releaseConnection => rfl
  | _ => cases dropped

theorem drops?_of_isLast {point : Point} (last : point.isLast = true) : point.drops? = none := by
  cases point with
  | releaseChannel channel connection? goal deadline | releaseConnection connection goal deadline =>
      cases goal with
      | finish => rfl
      | dial | setup connection => cases last
  | _ => rfl

theorem drops?_of_quiet {plan : Plan} {point : Point} (quiet : point.call? plan = none) :
    point.drops? = none := by
  cases dropped : point.drops? with
  | none => rfl
  | some connection =>
      obtain ⟨call, pending, -⟩ := exists_call plan (isRelease_of_drops? dropped)
      cases quiet.symm.trans pending

theorem connection?_of_drops? {point : Point} {connection : Nat}
    (dropped : point.drops? = some connection) : point.connection? = some connection := by
  cases point with
  | releaseChannel channel connection? goal deadline =>
      cases goal with
      | dial =>
          have held : connection? = some connection := dropped
          rw [held]
          rfl
      | setup connection | finish => cases dropped
  | releaseConnection connection goal deadline =>
      cases goal with
      | dial => exact dropped
      | setup connection | finish => cases dropped
  | _ => cases dropped

/-- Nothing is opened by a release. -/
theorem opens_of_isUninterrupted {plan : Plan} {point : Point} {call : Call}
    (uninterrupted : point.IsUninterrupted) (pending : point.call? plan = some call) :
    call.opens = false := by
  rcases uninterrupted with release | rfl
  · obtain ⟨other, same, closes⟩ := exists_call plan release
    cases pending.symm.trans same
    exact Call.opens_of_closes closes
  · cases pending

end Point

/-! ## Occasions -/

inductive DialsFrom (point : Point) (event : Event) : Prop where
  | entry (fresh : point = .entry)
  | pause {deadline : Nat} (paused : point = .dialPause deadline) (finished : event = .expired)
  | release {connection : Nat} (dropped : point.drops? = some connection)

inductive OpensFrom (connection : Nat) (point : Point) (event : Event) : Prop where
  | dial {deadline : Nat} {answer : Answer} (dialing : point = .dial deadline)
      (returned : event = .replied (.ok answer)) (named : answer.id = connection)
  | pause {deadline : Nat} (paused : point = .setupPause connection deadline)
      (finished : event = .expired)
  | release {channel deadline : Nat}
      (releasing : point = .releaseChannel channel none (.setup connection) deadline)
      (finished : event.isEnd = true)

/-- A connection is left because it is closed, or because its session was asked to be. -/
inductive DropsFor (signals : Signals) (cells : SupervisorCells) (connection : Nat)
    (point : Point) : Prop where
  | closed (closed : (signals.connection connection).isClosed = true)
  | asked {session : Session} (watched : point = .ready session)
      (held : session.connection = connection) (meant : cells.requested = session.generation)

inductive DiscardsFrom (plan : Plan) (connection channel : Nat) (point : Point) (event : Event) :
    Prop where
  | refused {deadline : Nat} {answer : Answer} {error : ClientError}
      (opening : point = .setup connection .openChannel deadline)
      (returned : event = .replied (.ok answer)) (named : answer.id = channel)
      (invalid : plan.topology.validate = .error error)
  | failed {stage : Stage} {deadline : Nat} {call : Call}
      (preparing : point = .setup connection stage deadline)
      (pending : point.call? plan = some call) (about : call.setUp? = some channel)
      (failed : event.isFailure = true)

inductive SetupFailsFrom (connection : Nat) (point : Point) (event : Event) : Prop where
  | unopened {deadline : Nat} (opening : point = .setup connection .openChannel deadline)
      (failed : event.isFailure = true)
  | discarded {channel deadline : Nat} {cause : ClientError}
      (discarding : point = .setup connection (.discard channel cause) deadline)
      (finished : event.isEnd = true)

/-- Only a session whose channel is closed, and whose connection is open, is given
another channel. -/
structure ReopensFor (signals : Signals) (session : Session) (point : Point) : Prop where
  watched : point = .ready session
  closed : (signals.channel session.channel).isClosed = true
  isOpen : (signals.connection session.connection).isClosed = false

/-- The event is none that ends a suspension while a call may be under way. -/
def IsIdle (plan : Plan) (point : Point) (event : Event) : Prop :=
  point.call? plan = none ∨
    event.isEnd = false ∧ ∀ signals cells, point.interrupt? signals cells ≠ some event

/-- Where a reaction leads, and on what occasion. -/
inductive Route (plan : Plan) (signals : Signals) (now : Nat) (cells : SupervisorCells)
    (point : Point) (event : Event) (reaction : Reaction) : Prop where
  | stays (idle : IsIdle plan point event)
      (unwritten : reaction.cells.sessionVersion = cells.sessionVersion)
      (next : reaction.next = .await point)
  | ends (last : reaction.next.point.isLast = true)
  | dials (origin : DialsFrom point event)
      (unwritten : reaction.cells.sessionVersion = cells.sessionVersion)
      (next : reaction.next = .await (.dial (now + plan.settings.connectTimeout)))
  | dialFails {deadline : Nat} (dialing : point = .dial deadline)
      (failed : event.isFailure = true)
      (unwritten : reaction.cells.sessionVersion = cells.sessionVersion)
      (next : reaction.next = .await (.dialPause (now + plan.settings.reconnectDelay)))
  | opens {connection deadline : Nat} (origin : OpensFrom connection point event)
      (unwritten : reaction.cells.sessionVersion = cells.sessionVersion)
      (next : reaction.next = .await (.setup connection .openChannel deadline))
  | prepares {connection deadline : Nat} {stage : Stage} {channel : Nat} {call : Call}
      (next : reaction.next = .proceed (.setup connection stage deadline))
      (pending : (Point.setup connection stage deadline).call? plan = some call)
      (about : call.setUp? = some channel)
  | discards {connection channel deadline : Nat} {cause : ClientError}
      (origin : DiscardsFrom plan connection channel point event)
      (unwritten : reaction.cells.sessionVersion = cells.sessionVersion)
      (next : reaction.next = .proceed (.setup connection (.discard channel cause) deadline))
  | setupFails {connection : Nat} (origin : SetupFailsFrom connection point event)
      (unwritten : reaction.cells.sessionVersion = cells.sessionVersion)
      (next : reaction.next =
        .await (.setupPause connection (now + plan.settings.reinitDelay)))
  | publishes {session : Session} (next : reaction.next = .await (.ready session))
  | drops {connection : Nat} {target : Point} (fresh : point.drops? = none)
      (cause : DropsFor signals cells connection point)
      (next : reaction.next = .proceed target) (dropped : target.drops? = some connection)
  | dropsOn {connection : Nat} {target : Point} (dropping : point.drops? = some connection)
      (next : reaction.next = .proceed target) (dropped : target.drops? = some connection)
  | reopens {session : Session} {deadline : Nat} (cause : ReopensFor signals session point)
      (withdrawn : reaction.cells.session = none)
      (written : reaction.cells.sessionVersion ≠ cells.sessionVersion)
      (next : reaction.next =
        .proceed (.releaseChannel session.channel none (.setup session.connection) deadline))

/-- What an event tells of the signals is so. -/
structure IsTrue (signals : Signals) (point : Point) (event : Event) : Prop where
  connection : ∀ reason connection, event = .connectionClosed reason →
    point.connection? = some connection → (signals.connection connection).isClosed = true
  channel : ∀ reason session, event = .channelClosed reason → point = .ready session →
    (signals.channel session.channel).isClosed = true ∧
      (signals.connection session.connection).isClosed = false

theorem isTrue_of_isEnd {signals : Signals} {point : Point} {event : Event}
    (finished : event.isEnd = true) : IsTrue signals point event := by
  constructor
  · rintro reason connection rfl
    cases finished
  · rintro reason session rfl
    cases finished

theorem isTrue_of_interrupt? {signals : Signals} {cells : SupervisorCells} {point : Point}
    {event : Event} (found : point.interrupt? signals cells = some event) :
    IsTrue signals point event := by
  cases Point.finds_of_interrupt? found with
  | begin | shutdown | asked =>
      constructor
      · rintro reason connection ⟨⟩
      · rintro reason session ⟨⟩
  | cutShort atPoint closed | connectionClosed atPoint closed =>
      constructor
      · rintro reason connection - held
        rw [atPoint] at held
        cases held
        exact closed
      · rintro reason session ⟨⟩
  | channelClosed watched closed isOpen =>
      constructor
      · rintro reason connection ⟨⟩
      · rintro reason session - same
        cases watched.symm.trans same
        exact ⟨closed, isOpen⟩

/-- A look finds no more than an interrupt. -/
theorem isEnd_of_interrupt? {signals : Signals} {cells : SupervisorCells} {point : Point}
    {event : Event} (found : point.interrupt? signals cells = some event) :
    event.isEnd = false := by
  cases Point.finds_of_interrupt? found <;> rfl

section

variable {plan : Plan} {signals : Signals} {now : Nat} {cells : SupervisorCells} {point : Point}
  {event : Event}

private theorem finish_route (channel? connection? : Option Nat) :
    Route plan signals now cells point event (finish plan now channel? connection? cells) := by
  cases channel? with
  | some channel => exact .ends rfl
  | none => cases connection? <;> exact .ends rfl

private theorem OpensFrom.drops?_eq_none {connection : Nat}
    (origin : OpensFrom connection point event) :
    point.drops? = none := by
  cases origin with
  | dial dialing => rw [dialing]; rfl
  | pause paused => rw [paused]; rfl
  | release releasing => rw [releasing]; rfl

private theorem dial_route (origin : DialsFrom point event) :
    Route plan signals now cells point event (dial plan now cells) := by
  unfold dial
  split
  · exact finish_route none none
  · exact .dials origin rfl rfl

private theorem setUp_route {connection : Nat} (origin : OpensFrom connection point event) :
    Route plan signals now cells point event (setUp plan signals now connection cells) := by
  unfold setUp
  dsimp only
  split
  · next reason found =>
    refine .drops origin.drops?_eq_none (.closed ?_) rfl rfl
    simp [CloseCell.isClosed, found]
  · exact .opens origin rfl rfl

private theorem publishSession_route (connection channel : Nat) :
    Route plan signals now cells point event (publishSession connection channel cells) :=
  .publishes rfl

private theorem installed_route (connection channel : Nat) :
    Route plan signals now cells point event (installed plan now connection channel cells) := by
  unfold installed
  split
  · exact .prepares rfl rfl rfl
  · exact publishSession_route connection channel

private theorem continueInstall_route {connection channel : Nat} (deadline : Nat)
    (progress : Topology.InstallProgress) (notices : List Notice)
    (refused : ∀ error, progress = .finished (.error error) →
      DiscardsFrom plan connection channel point event) :
    Route plan signals now cells point event
      (continueInstall plan now connection channel deadline progress cells notices) := by
  match progress with
  | .calling step => exact .prepares rfl rfl (setUp?_call plan.topology channel step)
  | .finished (.ok ()) => exact installed_route connection channel
  | .finished (.error error) => exact .discards (refused error rfl) rfl rfl

private theorem setupReplied_route {connection deadline : Nat} {stage : Stage} {reply : Reply}
    (atSetup : point = .setup connection stage deadline) (returned : event = .replied reply) :
    Route plan signals now cells point event
      (setupReplied plan now connection stage deadline reply cells) := by
  cases stage with
  | openChannel =>
      cases reply with
      | ok answer =>
          refine continueInstall_route _ _ _ fun error refused => ?_
          exact .refused atSetup returned rfl (Topology.invalid_of_beginInstall refused)
      | error error => exact .setupFails (.unopened atSetup (returned ▸ rfl)) rfl rfl
  | install channel step =>
      have pending : point.call? plan = some (step.call plan.topology channel) := atSetup ▸ rfl
      refine continueInstall_route _ _ _ fun error refused => ?_
      cases reply with
      | ok answer => exact absurd refused (plan.topology.afterInstallStep_ne_error answer step error)
      | error cause =>
          exact .failed atSetup pending (setUp?_call plan.topology channel step) (returned ▸ rfl)
  | confirmSelect channel =>
      have pending : point.call? plan = some (.confirmSelect channel) := atSetup ▸ rfl
      cases reply with
      | ok answer => exact publishSession_route connection channel
      | error error => exact .discards (.failed atSetup pending rfl (returned ▸ rfl)) rfl rfl
  | discard channel cause =>
      exact .setupFails (.discarded atSetup (returned ▸ rfl)) rfl rfl

private theorem setupExpired_route {connection deadline : Nat} {stage : Stage}
    (atSetup : point = .setup connection stage deadline) (finished : event = .expired) :
    Route plan signals now cells point event (setupExpired plan now connection stage cells) := by
  have failed : event.isFailure = true := finished ▸ rfl
  cases stage with
  | openChannel => exact .setupFails (.unopened atSetup failed) rfl rfl
  | install channel step =>
      have pending : point.call? plan = some (step.call plan.topology channel) := atSetup ▸ rfl
      exact .discards
        (.failed atSetup pending (setUp?_call plan.topology channel step) failed) rfl rfl
  | confirmSelect channel =>
      have pending : point.call? plan = some (.confirmSelect channel) := atSetup ▸ rfl
      exact .discards (.failed atSetup pending rfl failed) rfl rfl
  | discard channel cause => exact .setupFails (.discarded atSetup (finished ▸ rfl)) rfl rfl

private theorem leaveReady_route {session : Session} (atReady : point = .ready session)
    (isTrue : IsTrue signals point event) :
    Route plan signals now cells point event (leaveReady plan now session event cells) := by
  have fresh : point.drops? = none := atReady ▸ rfl
  cases event with
  | shutdown => exact .ends rfl
  | connectionClosed reason =>
      have closed := isTrue.connection reason session.connection rfl (atReady ▸ rfl)
      exact .drops fresh (.closed closed) rfl rfl
  | channelClosed reason =>
      obtain ⟨closed, isOpen⟩ := isTrue.channel reason session rfl atReady
      exact .reopens ⟨atReady, closed, isOpen⟩ rfl (Nat.succ_ne_self _) rfl
  | reconnect =>
      by_cases meant : cells.requested = session.generation
      · have next : (leaveReady plan now session .reconnect cells).next =
            .proceed (.releaseChannel session.channel (some session.connection) .dial
              (stepDeadline plan now)) := by
          simp [leaveReady, meant]
        exact .drops fresh (.asked atReady rfl meant) next rfl
      · have idle : point.call? plan = none := atReady ▸ rfl
        exact .stays (.inl idle) (by simp [leaveReady, meant]) (by simp [leaveReady, meant, atReady])
  | begin | replied _ | expired => exact .stays (.inl (atReady ▸ rfl)) rfl (atReady ▸ rfl)

private theorem release_route (fits : point.FitsGoal) (release : point.isRelease = true)
    (finished : event.isEnd = true) :
    Route plan signals now cells point event (react plan signals now cells point event) := by
  have ended : (∃ reply, event = .replied reply) ∨ event = .expired := by
    cases event with
    | replied reply => exact .inl ⟨reply, rfl⟩
    | expired => exact .inr rfl
    | _ => cases finished
  cases point with
  | releaseChannel channel connection? goal deadline =>
      cases connection? with
      | some connection =>
          cases goal with
          | dial => rcases ended with ⟨reply, rfl⟩ | rfl <;> exact .dropsOn rfl rfl rfl
          | setup connection => cases fits
          | finish => rcases ended with ⟨reply, rfl⟩ | rfl <;> exact .ends rfl
      | none =>
          cases goal with
          | dial => cases fits
          | setup connection =>
              rcases ended with ⟨reply, rfl⟩ | rfl <;> exact setUp_route (.release rfl rfl)
          | finish => rcases ended with ⟨reply, rfl⟩ | rfl <;> exact .ends rfl
  | releaseConnection connection goal deadline =>
      cases goal with
      | dial => rcases ended with ⟨reply, rfl⟩ | rfl <;> exact dial_route (.release rfl)
      | setup connection => cases fits
      | finish => rcases ended with ⟨reply, rfl⟩ | rfl <;> exact .ends rfl
  | _ => cases release

theorem react_route (fits : point.FitsGoal) (isTrue : IsTrue signals point event) :
    Route plan signals now cells point event (react plan signals now cells point event) := by
  cases point with
  | entry =>
      cases event with
      | begin => exact dial_route (.entry rfl)
      | _ => exact .stays (.inl rfl) rfl rfl
  | releaseChannel | releaseConnection =>
      cases event with
      | replied _ | expired => exact release_route fits rfl rfl
      | _ => exact .stays (.inr ⟨rfl, fun _ _ => nofun⟩) rfl rfl
  | dial deadline =>
      cases event with
      | shutdown => exact finish_route none none
      | replied reply =>
          cases reply with
          | ok answer => exact setUp_route (.dial rfl rfl rfl)
          | error error => exact .dialFails rfl rfl rfl rfl
      | expired => exact .dialFails rfl rfl rfl rfl
      | _ => exact .stays (.inr ⟨rfl, fun _ _ => by simp [Point.interrupt?]⟩) rfl rfl
  | dialPause deadline =>
      cases event with
      | shutdown => exact finish_route none none
      | expired => exact dial_route (.pause rfl rfl)
      | _ => exact .stays (.inl rfl) rfl rfl
  | setup connection stage deadline =>
      cases event with
      | shutdown => exact finish_route none (some connection)
      | connectionClosed reason =>
          have closed := isTrue.connection reason connection rfl rfl
          exact .drops rfl (.closed closed) rfl rfl
      | replied reply => exact setupReplied_route rfl rfl
      | expired => exact setupExpired_route rfl rfl
      | _ =>
          refine .stays (.inr ⟨rfl, fun _ _ => ?_⟩) rfl rfl
          dsimp only [Point.interrupt?]
          split <;> simp
  | setupPause connection deadline =>
      cases event with
      | shutdown => exact finish_route none (some connection)
      | expired => exact setUp_route (.pause rfl rfl)
      | _ => exact .stays (.inl rfl) rfl rfl
  | ready session => exact leaveReady_route rfl isTrue
  | closed => exact .stays (.inl rfl) rfl rfl

/-- Only a connection that is closed, or was asked to be left, begins to be let go of. -/
theorem Route.dropsFor {reaction : Reaction} {connection : Nat}
    (route : Route plan signals now cells point event reaction) (held : point.drops? = none)
    (dropped : reaction.next.point.drops? = some connection) :
    DropsFor signals cells connection point := by
  cases route with
  | ends last => cases (Point.drops?_of_isLast last).symm.trans dropped
  | drops fresh cause next given =>
      rw [next] at dropped
      cases given.symm.trans dropped
      exact cause
  | dropsOn dropping => cases held.symm.trans dropping
  | stays idle unwritten next =>
      rw [next] at dropped
      cases held.symm.trans dropped
  | dials origin unwritten next | dialFails dialing failed unwritten next
  | opens origin unwritten next | prepares next pending about | discards origin unwritten next
  | setupFails origin unwritten next | publishes next | reopens cause withdrawn written next =>
      rw [next] at dropped
      cases dropped

/-- No reaction dials or opens a channel at once: there is a look at the interrupts before. -/
theorem Route.opens_of_issued {reaction : Reaction} {call : Call}
    (route : Route plan signals now cells point event reaction)
    (issued : call ∈ reaction.next.issues plan) : call.opens = false := by
  cases next : reaction.next with
  | await target =>
      rw [next] at issued
      cases issued
  | proceed target =>
      rw [next] at issued
      have pending : target.call? plan = some call := by simpa [Next.issues] using issued
      cases route with
      | ends last =>
          rw [next] at last
          exact Point.opens_of_isUninterrupted (Point.isUninterrupted_of_isLast last) pending
      | prepares same made about =>
          cases next.symm.trans same
          cases pending.symm.trans made
          exact Call.opens_of_setUp? about
      | discards origin unwritten same =>
          cases next.symm.trans same
          cases pending
          rfl
      | drops fresh cause same dropped | dropsOn dropping same dropped =>
          cases next.symm.trans same
          exact Point.opens_of_isUninterrupted (.inl (Point.isRelease_of_drops? dropped)) pending
      | reopens cause withdrawn written same =>
          cases next.symm.trans same
          cases pending
          rfl
      | stays idle unwritten same | dials origin unwritten same | dialFails dialing failed unwritten same
      | opens origin unwritten same | setupFails origin unwritten same | publishes same =>
          cases next.symm.trans same

end

end Supervisor

end AmqpClient
