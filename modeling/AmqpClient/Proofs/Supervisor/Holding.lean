import AmqpClient.Proofs.Supervisor.Ledger

/-!
# The loop holds what its point says

At each point it is known which connection and which channel the loop holds. A
reaction writes and calls only what a ledger that says the same allows, and leads
to a point that the ledger matches again.
-/

set_option autoImplicit false

namespace AmqpClient.Supervisor

/-! ## What is held at a point -/

/-- The connection that is kept while everything else is released. -/
def Goal.connection? : Goal → Option Nat
  | .setup connection => some connection
  | .dial | .finish => none

namespace Point

def connection? : Point → Option Nat
  | .releaseChannel _ connection? goal _ => connection?.or goal.connection?
  | .releaseConnection connection .. | .setup connection .. | .setupPause connection _ =>
    some connection
  | .ready session => some session.connection
  | .entry | .dial _ | .dialPause _ | .closed => none

def channelStatus : Point → ChannelStatus
  | .releaseChannel channel .. => .stored channel
  | .setup _ stage _ =>
    match stage with
    | .openChannel => .absent
    | .install channel _ | .confirmSelect channel => .inSetup channel
    | .discard channel _ => .failed channel
  | .ready session => .stored session.channel
  | .entry | .releaseConnection .. | .dial _ | .dialPause _ | .setupPause .. | .closed => .absent

/-- The call of the point was made on the way to it. -/
def isBusy : Point → Bool
  | .releaseChannel .. | .releaseConnection .. => true
  | .setup _ stage _ =>
    match stage with
    | .openChannel => false
    | .install .. | .confirmSelect _ | .discard .. => true
  | _ => false

/-- What is called only after a fresh look is a dial, or the opening of a channel. -/
theorem opening_of_call {plan : Plan} {point : Point} {call : Call}
    (pending : point.call? plan = some call) (quiet : point.isBusy = false) :
    (∃ deadline, point = .dial deadline) ∨
      ∃ connection deadline, point = .setup connection .openChannel deadline := by
  cases point with
  | dial deadline => exact .inl ⟨deadline, rfl⟩
  | setup connection stage deadline =>
      cases stage with
      | openChannel => exact .inr ⟨connection, deadline, rfl⟩
      | _ => cases quiet
  | releaseChannel | releaseConnection => cases quiet
  | _ => cases pending

/-- A release lets go of the connection exactly if what follows does not need it. -/
def FitsGoal : Point → Prop
  | .releaseChannel _ connection? goal _ => goal.connection?.isSome = connection?.isNone
  | .releaseConnection _ goal _ => goal.connection? = none
  | _ => True

end Point

def Next.calls (plan : Plan) : Next → Bool
  | .await _ => false
  | .proceed point => (point.call? plan).isSome

namespace Ledger

/-- Nothing is under way, and this is held. -/
structure Stands (ledger : Ledger) (connection? : Option Nat) (channel : ChannelStatus)
    (cells : SupervisorCells) : Prop where
  idle : ledger.pending? = none
  connection : ledger.connection? = connection?
  channel : ledger.channel = channel
  session : ledger.session? = cells.session
  stored : ledger.stored = cells.generations

/-- The ledger says what the loop knows at its point. -/
structure Matches (plan : Plan) (ledger : Ledger) (point : Point) (isCalling : Bool)
    (cells : SupervisorCells) : Prop where
  connection : ledger.connection? = point.connection?
  channel : ledger.channel = point.channelStatus
  pending : ledger.pending?.map Prod.snd = if isCalling then point.call? plan else none
  session : ledger.session? = cells.session
  stored : ledger.stored = cells.generations
  busy : point.isBusy = true → isCalling = true
  fits : point.FitsGoal
  limit : ∀ since call deadline, ledger.pending? = some (since, call) → call.closes = true →
    point.deadline? = some deadline → deadline = since + plan.settings.channelTimeout

end Ledger

/-! ## Reactions -/

/-- What is called on the way to the next point. -/
def Next.entries (plan : Plan) (now : Nat) : Next → List Entry
  | .await _ => []
  | .proceed point =>
    (point.call? plan).toList.map fun call => { time := now, mark := .called call }

/-- What a reaction adds to the history: first its write, then its call. -/
def Reaction.entries (plan : Plan) (now : Nat) (cells : SupervisorCells) (reaction : Reaction) :
    List Entry :=
  (if reaction.cells.sessionVersion = cells.sessionVersion then []
    else [{ time := now, mark := .wrote reaction.cells.session }]) ++
  reaction.next.entries plan now

/-- The ledger allows a reaction and matches the point that it leads to. -/
def Suits (plan : Plan) (now : Nat) (cells : SupervisorCells) (ledger : Ledger)
    (reaction : Reaction) : Prop :=
  ∃ after,
    Ledger.Reads plan.settings.channelTimeout ledger (reaction.entries plan now cells) after ∧
    after.Matches plan reaction.next.point (reaction.next.calls plan) reaction.cells

section

variable {plan : Plan} {signals : Signals} {now : Nat} {cells after : SupervisorCells}
  {ledger held : Ledger} {reaction : Reaction} {point : Point} {call : Call}

private theorem Ledger.Stands.matches
    (stands : ledger.Stands point.connection? point.channelStatus cells)
    (quiet : point.isBusy = false) (fits : point.FitsGoal) :
    ledger.Matches plan point false cells where
  connection := stands.connection
  channel := stands.channel
  pending := by simp [stands.idle]
  session := stands.session
  stored := stands.stored
  busy busy := by simp [quiet] at busy
  fits := fits
  limit since call deadline pending := by simp [stands.idle] at pending

theorem Ledger.Stands.begin_matches
    (stands : ledger.Stands point.connection? point.channelStatus cells)
    (pending : point.call? plan = some call) (fits : point.FitsGoal)
    (limit : ∀ deadline, call.closes = true → point.deadline? = some deadline →
      deadline = stepDeadline plan now) :
    (ledger.begin now call).Matches plan point true cells where
  connection := stands.connection
  channel := stands.channel
  pending := by simp [Ledger.begin, pending]
  session := stands.session
  stored := stands.stored
  busy _ := rfl
  fits := fits
  limit since other deadline began closes due := by
    cases began
    exact limit deadline closes due

theorem Ledger.Stands.congr {connection? : Option Nat} {channel : ChannelStatus}
    (stands : ledger.Stands connection? channel cells) (session : after.session = cells.session)
    (generations : after.generations = cells.generations) :
    ledger.Stands connection? channel after :=
  ⟨stands.idle, stands.connection, stands.channel, stands.session.trans session.symm,
    stands.stored.trans generations.symm⟩

theorem Ledger.Stands.become {connection? : Option Nat} {former : ChannelStatus}
    (stands : ledger.Stands connection? former cells) (channel : ChannelStatus) :
    ({ ledger with channel } : Ledger).Stands connection? channel cells :=
  ⟨stands.idle, stands.connection, rfl, stands.session, stands.stored⟩

private theorem entries_of_not_calls {next : Next} (quiet : next.calls plan = false) :
    next.entries plan now = [] := by
  cases next with
  | await point => rfl
  | proceed point => simpa [Next.calls, Next.entries] using quiet

theorem suits_of_quiet (version : reaction.cells.sessionVersion = cells.sessionVersion)
    (next : reaction.next.calls plan = false)
    (stands : ledger.Stands reaction.next.point.connection? reaction.next.point.channelStatus
      reaction.cells)
    (quiet : reaction.next.point.isBusy = false) (fits : reaction.next.point.FitsGoal) :
    Suits plan now cells ledger reaction := by
  refine ⟨ledger, ?_, ?_⟩
  · simpa [Reaction.entries, version, entries_of_not_calls next] using .nothing
  · rw [next]
    exact stands.matches quiet fits

private theorem suits_of_call (version : reaction.cells.sessionVersion = cells.sessionVersion)
    (next : reaction.next = .proceed point) (pending : point.call? plan = some call)
    (enters : ledger.Enters plan.settings.channelTimeout now (.called call) (held.begin now call))
    (stands : held.Stands point.connection? point.channelStatus reaction.cells)
    (fits : point.FitsGoal)
    (limit : ∀ deadline, call.closes = true → point.deadline? = some deadline →
      deadline = stepDeadline plan now) :
    Suits plan now cells ledger reaction := by
  refine ⟨held.begin now call, ?_, ?_⟩
  · simpa [Reaction.entries, version, next, Next.entries, pending] using Ledger.Reads.single enters
  · simpa [next, Next.calls, Next.point, pending] using stands.begin_matches pending fits limit

private theorem suits_of_write (version : reaction.cells.sessionVersion ≠ cells.sessionVersion)
    (enters : ledger.Enters plan.settings.channelTimeout now (.wrote reaction.cells.session) held)
    (goesOn : Suits plan now reaction.cells held reaction) :
    Suits plan now cells ledger reaction := by
  obtain ⟨after, reads, agrees⟩ := goesOn
  refine ⟨after, ?_, agrees⟩
  simpa [Reaction.entries, version] using (Ledger.Reads.single enters).trans reads

private theorem suits_of_withdraw (version : reaction.cells.sessionVersion ≠ cells.sessionVersion)
    (empty : reaction.cells.session = none) (idle : ledger.pending? = none)
    (goesOn : Suits plan now reaction.cells { ledger with session? := none } reaction) :
    Suits plan now cells ledger reaction := by
  refine suits_of_write version ?_ goesOn
  rw [empty]
  exact .withdrawn idle

theorem Ledger.Stands.withdraw {connection? : Option Nat} {channel : ChannelStatus}
    (stands : ledger.Stands connection? channel cells) (session : after.session = none)
    (generations : after.generations = cells.generations) :
    ({ ledger with session? := none } : Ledger).Stands connection? channel after :=
  ⟨stands.idle, stands.connection, stands.channel, session.symm,
    stands.stored.trans generations.symm⟩

/-! ### Releasing -/

/-- A channel is free to be left alone: there is none, or its setup was given up. -/
def ChannelStatus.IsFree (channel : ChannelStatus) : Prop :=
  channel = .absent ∨ ∃ number, channel = .givenUp number

theorem releaseConnection_suits {connection : Nat} {channel : ChannelStatus} {goal : Goal}
    (version : reaction.cells.sessionVersion = cells.sessionVersion)
    (next : reaction.next =
      .proceed (.releaseConnection connection goal (stepDeadline plan now)))
    (stands : ledger.Stands (some connection) channel reaction.cells) (free : channel.IsFree)
    (fits : goal.connection? = none) : Suits plan now cells ledger reaction := by
  refine suits_of_call version next rfl ?_ (stands.become .absent) fits ?_
  · exact .closeConnection stands.idle stands.connection (stands.channel ▸ free)
  · intro deadline _ due
    exact (Option.some.inj due).symm

private theorem releaseChannel_suits {channel connection : Nat} {connection? : Option Nat}
    {goal : Goal}
    (version : reaction.cells.sessionVersion = cells.sessionVersion)
    (next : reaction.next =
      .proceed (.releaseChannel channel connection? goal (stepDeadline plan now)))
    (held : connection?.or goal.connection? = some connection)
    (stands : ledger.Stands (some connection) (.stored channel) reaction.cells)
    (empty : reaction.cells.session = none)
    (fits : goal.connection?.isSome = connection?.isNone) :
    Suits plan now cells ledger reaction := by
  have stands : ledger.Stands
      (Point.releaseChannel channel connection? goal (stepDeadline plan now)).connection?
      (.stored channel) reaction.cells := by
    simpa [Point.connection?, held] using stands
  refine suits_of_call version next rfl ?_ stands fits ?_
  · exact .closeChannel stands.idle (stands.session.trans empty) (.inr stands.channel)
  · intro deadline _ due
    exact (Option.some.inj due).symm

private theorem conclude_suits (stands : ledger.Stands none .absent cells) :
    Suits plan now cells ledger (conclude cells) :=
  suits_of_quiet rfl rfl (stands.congr rfl rfl) rfl trivial

theorem finish_suits_of_none (stands : ledger.Stands none .absent cells) :
    Suits plan now cells ledger (finish plan now none none cells) := by
  refine suits_of_withdraw (Nat.succ_ne_self _) rfl stands.idle ?_
  exact suits_of_quiet rfl rfl (stands.withdraw rfl rfl) rfl trivial

theorem finish_suits_of_connection {connection : Nat} {channel : ChannelStatus}
    (stands : ledger.Stands (some connection) channel cells) (free : channel.IsFree) :
    Suits plan now cells ledger (finish plan now none (some connection) cells) := by
  refine suits_of_withdraw (Nat.succ_ne_self _) rfl stands.idle ?_
  exact releaseConnection_suits rfl rfl (stands.withdraw rfl rfl) free rfl

/-! ### Dialing and setting up -/

theorem dial_suits (stands : ledger.Stands none .absent cells) :
    Suits plan now cells ledger (dial plan now cells) := by
  unfold dial
  split
  · exact finish_suits_of_none stands
  · exact suits_of_quiet rfl rfl (stands.congr rfl rfl) rfl trivial

theorem redial_suits {connection : Nat} {channel : ChannelStatus} (notices : List Notice)
    (stands : ledger.Stands (some connection) channel cells) (free : channel.IsFree) :
    Suits plan now cells ledger (redial plan now connection cells notices) :=
  releaseConnection_suits rfl rfl stands free rfl

theorem setUp_suits {connection : Nat} (stands : ledger.Stands (some connection) .absent cells) :
    Suits plan now cells ledger (setUp plan signals now connection cells) := by
  have ready : ledger.Stands (some connection) .absent (cells.setState .initializing) :=
    stands.congr rfl rfl
  unfold setUp
  dsimp only
  split
  · exact releaseConnection_suits rfl rfl ready (.inl rfl) rfl
  · exact suits_of_quiet rfl rfl ready rfl trivial

theorem arrive_suits (goal : Goal) (stands : ledger.Stands goal.connection? .absent cells) :
    Suits plan now cells ledger (arrive plan signals now goal cells) := by
  cases goal with
  | dial => exact dial_suits stands
  | setup connection => exact setUp_suits stands
  | finish => exact conclude_suits stands

theorem setupFailed_suits {connection : Nat} (error : ClientError)
    (stands : ledger.Stands (some connection) .absent cells) :
    Suits plan now cells ledger (setupFailed plan now connection error cells) :=
  suits_of_quiet rfl rfl stands rfl trivial

theorem discard_suits {connection channel : Nat} {status : ChannelStatus} (cause : ClientError)
    (notices : List Notice) (stands : ledger.Stands (some connection) status cells)
    (held : status = .inSetup channel ∨ status = .failed channel) (empty : cells.session = none) :
    Suits plan now cells ledger (discard plan now connection channel cause cells notices) := by
  have unseen : ledger.session? = none := stands.session.trans empty
  refine suits_of_call rfl rfl rfl ?_ (stands.become (.failed channel)) trivial ?_
  · rcases held with rfl | rfl
    · exact .refuse stands.idle unseen stands.channel
    · have same : ({ ledger with channel := .failed channel } : Ledger) = ledger := by
        rw [← stands.channel]
      rw [same]
      exact .closeChannel stands.idle unseen (.inl stands.channel)
  · intro deadline _ due
    exact (Option.some.inj due).symm

theorem publishSession_suits {connection channel : Nat}
    (stands : ledger.Stands (some connection) (.inSetup channel) cells)
    (empty : cells.session = none) :
    Suits plan now cells ledger (publishSession connection channel cells) := by
  let session : Session := { generation := cells.generations + 1, connection, channel }
  have stores : ledger.Enters plan.settings.channelTimeout now (.wrote (some session)) _ :=
    .stored stands.idle (stands.session.trans empty) stands.connection stands.channel
      (congrArg (· + 1) stands.stored.symm)
  refine suits_of_write (Nat.succ_ne_self _) stores ?_
  exact suits_of_quiet rfl rfl ⟨stands.idle, stands.connection, rfl, rfl, rfl⟩ rfl trivial

private theorem setUpCall_suits {connection channel : Nat} {stage : Stage} {deadline : Nat}
    (version : reaction.cells.sessionVersion = cells.sessionVersion)
    (next : reaction.next = .proceed (.setup connection stage deadline))
    (pending : (Point.setup connection stage deadline).call? plan = some call)
    (about : call.setUp? = some channel)
    (status : (Point.setup connection stage deadline).channelStatus = .inSetup channel)
    (stands : ledger.Stands (some connection) (.inSetup channel) reaction.cells) :
    Suits plan now cells ledger reaction := by
  refine suits_of_call version next pending (.setUp stands.idle about stands.channel)
    (status ▸ stands) trivial ?_
  intro deadline closes
  rw [Call.closes_of_setUp? about] at closes
  cases closes

private theorem installed_suits {connection channel : Nat}
    (stands : ledger.Stands (some connection) (.inSetup channel) cells)
    (empty : cells.session = none) :
    Suits plan now cells ledger (installed plan now connection channel cells) := by
  unfold installed
  split
  · exact setUpCall_suits rfl rfl rfl rfl rfl stands
  · exact publishSession_suits stands empty

theorem setUp?_call (topology : Topology) (channel : Nat) (step : Topology.InstallStep) :
    (step.call topology channel).setUp? = some channel := by
  cases step <;> rfl

theorem continueInstall_suits {connection channel : Nat} {status : ChannelStatus}
    (deadline : Nat) (progress : Topology.InstallProgress) (notices : List Notice)
    (stands : ledger.Stands (some connection) status cells)
    (held : status = .inSetup channel ∨
      status = .failed channel ∧ ∃ error, progress = .finished (.error error))
    (empty : cells.session = none) :
    Suits plan now cells ledger
      (continueInstall plan now connection channel deadline progress cells notices) := by
  match progress with
  | .calling step =>
      obtain rfl | ⟨-, error, failed⟩ := held
      · exact setUpCall_suits rfl rfl rfl (setUp?_call plan.topology channel step) rfl stands
      · cases failed
  | .finished (.ok ()) =>
      obtain rfl | ⟨-, error, failed⟩ := held
      · exact installed_suits stands empty
      · cases failed
  | .finished (.error error) =>
      exact discard_suits error notices stands (held.imp_right And.left) empty

/-! ### Leaving a session -/

theorem leaveReady_suits {session : Session} (event : Event)
    (stands : ledger.Stands (some session.connection) (.stored session.channel) cells) :
    Suits plan now cells ledger (leaveReady plan now session event cells) := by
  have withdraws {reaction : Reaction} {connection? : Option Nat} {goal : Goal}
      (version : cells.sessionVersion < reaction.cells.sessionVersion)
      (empty : reaction.cells.session = none)
      (generations : reaction.cells.generations = cells.generations)
      (next : reaction.next =
        .proceed (.releaseChannel session.channel connection? goal (stepDeadline plan now)))
      (held : connection?.or goal.connection? = some session.connection)
      (fits : goal.connection?.isSome = connection?.isNone) :
      Suits plan now cells ledger reaction := by
    refine suits_of_withdraw (Nat.ne_of_gt version) empty stands.idle ?_
    exact releaseChannel_suits rfl next held (stands.withdraw empty generations) empty fits
  cases event with
  | shutdown =>
      have newer : cells.sessionVersion < cells.sessionVersion + 2 := by omega
      exact withdraws newer rfl rfl rfl rfl rfl
  | connectionClosed reason | channelClosed reason =>
      exact withdraws (Nat.lt_succ_self _) rfl rfl rfl rfl rfl
  | reconnect =>
      by_cases meant : cells.requested = session.generation
      · have next : (leaveReady plan now session .reconnect cells).next =
            .proceed (.releaseChannel session.channel (some session.connection) .dial
              (stepDeadline plan now)) := by
          simp [leaveReady, meant]
        refine withdraws ?_ ?_ ?_ next rfl rfl <;>
          simp [leaveReady, meant, SupervisorCells.setSession]
      · have same : leaveReady plan now session .reconnect cells =
            { cells := { cells with hasRequest := false }, next := .await (.ready session) } := by
          simp [leaveReady, meant]
        rw [same]
        exact suits_of_quiet rfl rfl (stands.congr rfl rfl) rfl trivial
  | begin | replied _ | expired => exact suits_of_quiet rfl rfl stands rfl trivial

end

end AmqpClient.Supervisor
