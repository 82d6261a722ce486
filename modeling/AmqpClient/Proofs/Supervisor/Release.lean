import AmqpClient.Proofs.Supervisor.States
import AmqpClient.Proofs.Supervisor.Succession
import Mathlib.Data.List.TakeWhile

/-!
# Everything is released

Each connection is closed once, before the next dial and before the end. On a
connection, each channel is closed once before the next one is opened and before the
connection itself is closed. Only a channel whose setup was given up is left to the
end of its connection.
-/

set_option autoImplicit false

namespace AmqpClient.Supervisor

/-! ## The life of a channel -/

/-- The loop turns to the next channel, or leaves the connection. -/
def Entry.endsLife (entry : Entry) : Bool :=
  match entry.mark with
  | .called (.openChannel _) | .called (.closeConnection _) => true
  | _ => false

def Mark.closesChannel : Mark → Bool
  | .called (.closeChannel _) => true
  | _ => false

def Entry.closesChannel (entry : Entry) : Bool :=
  entry.mark.closesChannel

private theorem Mark.closesChannel_of_quiet {mark : Mark} (quiet : mark.movesHandles = false) :
    mark.closesChannel = false := by
  unfold Mark.closesChannel
  split
  · cases quiet
  · rfl

/-- What happens on a channel, given all that happens after it was opened. -/
def lifeOf (entries : List Entry) : List Entry :=
  entries.takeWhile fun entry => !entry.endsLife

/-- The channel is closed, once, and the call comes to its end. -/
def ClosedOnce (limit channel : Nat) (life : List Entry) : Prop :=
  ∃ early since ending late,
    life = early ++ { time := since, mark := .called (.closeChannel channel) } :: ending :: late ∧
    (ending.mark.Ends limit since ending.time (.closeChannel channel) ∨
      ending.mark = .abandoned (.closeChannel channel)) ∧
    ∀ entry ∈ early ++ late, entry.closesChannel = false

/-- Nothing has come of the channel: it is neither closed nor stored, and its setup has
not failed. -/
def Untouched (channel : Nat) (life : List Entry) : Prop :=
  ∀ entry ∈ life, entry.closesChannel = false ∧ entry.stores = false ∧
    ∀ call, call.setUp? = some channel → ¬ entry.mark.Fails call

def GivenUp (channel : Nat) (life : List Entry) : Prop :=
  Untouched channel life ∧
    ∃ time call, call.setUp? = some channel ∧ { time, mark := .abandoned call } ∈ life

namespace Ledger

variable {limit time connection channel : Nat} {start ledger after : Ledger} {mark : Mark}
  {entries : List Entry}

/-! ## Connections -/

theorem Reads.dials_eq (reads : Reads limit {} entries ledger) (connection : Nat) :
    (entries.map (·.mark)).countP (·.dials connection) =
      (entries.map (·.mark)).countP (·.calls (.closeConnection connection)) +
        if ledger.handles.connection? = some connection then 1 else 0 := by
  induction reads with
  | nothing => simp [handles]
  | entry reads enters ih =>
      have moved := enters.handles_moves.dials_eq connection
      rw [List.map_append, List.countP_append, List.countP_append, ih]
      simp only [List.map_cons, List.map_nil]
      omega

theorem Reads.closings_le (reads : Reads limit {} entries ledger) (channel : Nat) :
    (entries.map (·.mark)).countP (·.calls (.closeChannel channel)) +
        (if ledger.handles.channel? = some channel then 1 else 0) ≤
      (entries.map (·.mark)).countP (·.opens channel) := by
  induction reads with
  | nothing => simp [handles, ChannelStatus.number?]
  | entry reads enters ih =>
      have moved := enters.handles_moves.closings_le channel
      rw [List.map_append, List.countP_append, List.countP_append]
      simp only [List.map_cons, List.map_nil]
      omega

/-- How far a connection has come on its way out. -/
inductive Leaving (limit connection : Nat) (ledger : Ledger) (entries : List Entry) : Prop where
  | due (held : ledger.connection? = some connection)
      (still : ∀ since other, ledger.pending? ≠ some (since, .closeConnection other))
  | begun {since : Nat} (held : ledger.connection? = some connection)
      (pending : ledger.pending? = some (since, .closeConnection connection))
      (last : [{ time := since, mark := .called (.closeConnection connection) }] <:+ entries)
  | done (completes : Completes limit (.closeConnection connection) entries)

theorem Leaving.entry {entry : Entry} (leaving : ledger.Leaving limit connection entries)
    (enters : ledger.Enters limit entry.time entry.mark after) :
    after.Leaving limit connection (entries ++ [entry]) := by
  obtain ⟨time, mark⟩ := entry
  cases leaving with
  | done completes => exact .done (completes.append _)
  | due held still =>
      cases enters with
      | closeConnection idle connected free =>
          cases held.symm.trans connected
          exact .begun held rfl (List.suffix_append _ _)
      | connectionClosed pending => exact absurd pending (still _ _)
      | dial _ _ alone | dialed _ alone => cases held.symm.trans alone
      | setUp idle about =>
          refine .due held ?_
          rintro since other ⟨⟩
          cases about
      | openChannel | refuse | closeChannel => exact .due held (by simp [begin])
      | stored | withdrawn => exact .due held still
      | opened | unopened | prepared | failed | givenUp | channelClosed | channelLeft =>
          exact .due held (by simp [settle])
  | begun held pending last =>
      obtain ⟨-, ends⟩ := enters.of_closeConnection pending
      obtain ⟨earlier, rfl⟩ := last
      exact .done ⟨_, _, ends, ⟨earlier, [], by simp⟩⟩

theorem Reads.leaving (reads : Reads limit start entries ledger)
    (held : start.connection? = some connection) (idle : start.pending? = none) :
    ledger.Leaving limit connection entries := by
  induction reads with
  | nothing => exact .due held (by simp [idle])
  | entry _ enters ih => exact ih.entry enters

private theorem Enters.of_dialed {endpoint : Endpoint}
    (enters : ledger.Enters limit time
      (.returned (.connect endpoint) (.ok (.connection connection))) after) :
    after.connection? = some connection ∧ after.pending? = none := by
  cases enters with
  | dialed pending alone free => exact ⟨rfl, rfl⟩
  | unopened pending opens ends => rcases ends with ends | ends <;> cases ends
  | prepared pending about => cases about
  | failed pending about held fails => cases fails
  | channelClosed pending held ends => cases ends
  | connectionClosed pending held free ends => cases ends

private theorem Enters.alone_of_dials {endpoint : Endpoint}
    (enters : ledger.Enters limit time (.called (.connect endpoint)) after) :
    ledger.connection? = none := by
  cases enters with
  | dial _ idle alone free => exact alone
  | setUp idle about held => cases about
  | unopened pending opens ends => rcases ends with ends | ends <;> cases ends
  | failed pending about held fails => cases fails
  | channelClosed pending held ends => cases ends
  | connectionClosed pending held free ends => cases ends

/-- Between the return of a dial and the next dial the connection is closed. -/
theorem Reads.closed_between {before : Ledger} {since upon : Nat} {endpoint again : Endpoint}
    (dialed : before.Enters limit since
      (.returned (.connect endpoint) (.ok (.connection connection))) start)
    (reads : Reads limit start entries ledger)
    (redials : ledger.Enters limit upon (.called (.connect again)) after) :
    Completes limit (.closeConnection connection) entries := by
  obtain ⟨held, idle⟩ := dialed.of_dialed
  have alone := redials.alone_of_dials
  cases reads.leaving held idle with
  | due held | begun held => cases held.symm.trans alone
  | done completes => exact completes

/-! ## Channels -/

private theorem Enters.of_opened (enters : ledger.Enters limit time
      (.returned (.openChannel connection) (.ok (.channel channel))) after) :
    after.connection? ≠ none ∧ after.channel = .inSetup channel ∧ after.pending? = none := by
  cases enters with
  | opened pending held free =>
      refine ⟨?_, rfl, rfl⟩
      simp [settle, held]
  | unopened pending opens ends => rcases ends with ends | ends <;> cases ends
  | prepared pending about => cases about
  | failed pending about held fails => cases fails
  | channelClosed pending held ends => cases ends
  | connectionClosed pending held free ends => cases ends

/-- A channel's life does not end before the channel is closed or its setup given up. -/
theorem Enters.free_of_endsLife {entry : Entry} (ends : entry.endsLife = true)
    (enters : ledger.Enters limit entry.time entry.mark after) : ledger.channel.IsFree := by
  obtain ⟨time, mark⟩ := entry
  cases enters with
  | openChannel idle held free => exact .inl free
  | closeConnection idle held free => exact free
  | @setUp call channel idle about held => cases call <;> cases about <;> cases ends
  | unopened pending opens fails => rcases fails with (_ | _) | rfl <;> cases ends
  | failed pending about held fails => cases fails <;> cases ends
  | channelClosed pending held ended => cases ended <;> cases ends
  | connectionClosed pending held free ended => cases ended <;> cases ends
  | _ => cases ends

end Ledger

namespace Untouched

variable {channel : Nat} {life : List Entry} {entry : Entry}

theorem append (untouched : Untouched channel life) (unclosed : entry.closesChannel = false)
    (unstored : entry.stores = false)
    (succeeds : ∀ call, call.setUp? = some channel → ¬ entry.mark.Fails call) :
    Untouched channel (life ++ [entry]) := by
  intro other member
  rcases List.mem_append.mp member with early | late
  · exact untouched other early
  · rw [List.mem_singleton.mp late]
    exact ⟨unclosed, unstored, succeeds⟩

end Untouched

private theorem unclosed_append {life : List Entry} {entry : Entry}
    (unclosed : ∀ other ∈ life, other.closesChannel = false)
    (last : entry.closesChannel = false) :
    ∀ other ∈ life ++ [entry], other.closesChannel = false := by
  intro other member
  rcases List.mem_append.mp member with early | late
  · exact unclosed other early
  · rw [List.mem_singleton.mp late]
    exact last

theorem ClosedOnce.append {limit channel : Nat} {life : List Entry} {entry : Entry}
    (closed : ClosedOnce limit channel life) (unclosed : entry.closesChannel = false) :
    ClosedOnce limit channel (life ++ [entry]) := by
  obtain ⟨early, since, ending, late, rfl, ends, others⟩ := closed
  refine ⟨early, since, ending, late ++ [entry], by simp, ends, ?_⟩
  rw [← List.append_assoc]
  exact unclosed_append others unclosed

namespace Ledger

variable {limit time channel : Nat} {ledger after : Ledger} {mark : Mark} {life : List Entry}

/-- How far the channel that was opened last has come. -/
inductive Lives (limit channel : Nat) (ledger : Ledger) (life : List Entry) : Prop where
  | inSetup (held : ledger.channel = .inSetup channel)
      (setUp : ∀ since call, ledger.pending? = some (since, call) → call.setUp? = some channel)
      (untouched : Untouched channel life)
  | due (held : ledger.channel = .failed channel ∨ ledger.channel = .stored channel)
      (idle : ledger.pending? = none)
      (unclosed : ∀ entry ∈ life, entry.closesChannel = false)
  | begun {since : Nat} {early : List Entry}
      (held : ledger.channel = .failed channel ∨ ledger.channel = .stored channel)
      (pending : ledger.pending? = some (since, .closeChannel channel))
      (split : life = early ++ [{ time := since, mark := .called (.closeChannel channel) }])
      (unclosed : ∀ entry ∈ early, entry.closesChannel = false)
  | closed (free : ledger.channel = .absent) (idle : ledger.pending? = none)
      (closed : ClosedOnce limit channel life)
  | givenUp (left : ledger.channel = .givenUp channel) (idle : ledger.pending? = none)
      (givenUp : GivenUp channel life)

private theorem setUp_entry (enters : ledger.Enters limit time mark after)
    (held : ledger.channel = .inSetup channel)
    (setUp : ∀ since call, ledger.pending? = some (since, call) → call.setUp? = some channel)
    (untouched : Untouched channel life) :
    after.Lives limit channel (life ++ [{ time := time, mark }]) := by
  have unclosed : ∀ entry ∈ life, entry.closesChannel = false :=
    fun entry member => (untouched entry member).1
  cases enters with
  | setUp idle about status =>
      cases held.symm.trans status
      have quiet := Call.closes_of_setUp? about
      refine .inSetup held ?_ (untouched.append (Mark.closesChannel_of_quiet quiet) rfl ?_)
      · rintro since other ⟨⟩
        exact about
      · rintro other - ⟨⟩
  | refuse idle empty status =>
      cases held.symm.trans status
      exact .begun (.inl rfl) rfl rfl unclosed
  | prepared pending about =>
      refine .inSetup held (by simp [settle]) (untouched.append rfl rfl ?_)
      rintro call - ⟨⟩
  | failed pending about status fails =>
      cases held.symm.trans status
      exact .due (.inl rfl) rfl (unclosed_append unclosed (Mark.closesChannel_of_quiet fails.quiet))
  | givenUp pending about status =>
      cases held.symm.trans status
      refine .givenUp rfl rfl ⟨untouched.append rfl rfl ?_, time, _, about, by simp⟩
      rintro call - ⟨⟩
  | stored idle empty connected status next =>
      cases held.symm.trans status
      exact .due (.inr rfl) idle (unclosed_append unclosed rfl)
  | withdrawn idle =>
      refine .inSetup held setUp (untouched.append rfl rfl ?_)
      rintro call - ⟨⟩
  | unopened pending opens =>
      have about := setUp _ _ pending
      cases opens.symm.trans (Call.opens_of_setUp? about)
  | channelClosed pending | channelLeft pending | connectionClosed pending | dialed pending
  | opened pending => cases setUp _ _ pending
  | dial _ _ _ free | openChannel _ _ free => cases held.symm.trans free
  | closeChannel idle empty status =>
      rcases status with status | status <;> cases held.symm.trans status
  | closeConnection idle connected free =>
      rcases free with free | ⟨_, free⟩ <;> cases held.symm.trans free

private theorem due_entry (enters : ledger.Enters limit time mark after)
    (held : ledger.channel = .failed channel ∨ ledger.channel = .stored channel)
    (idle : ledger.pending? = none)
    (unclosed : ∀ entry ∈ life, entry.closesChannel = false) :
    after.Lives limit channel (life ++ [{ time := time, mark }]) := by
  cases enters with
  | @closeChannel number idle empty status =>
      have same : number = channel := by
        rcases held with held | held <;> rcases status with status | status <;>
          cases held.symm.trans status <;> rfl
      subst same
      exact .begun held rfl rfl unclosed
  | withdrawn idle => exact .due held idle (unclosed_append unclosed rfl)
  | dial _ _ _ status | openChannel _ _ status | setUp _ _ status | refuse _ _ status
  | stored _ _ _ status =>
      rcases held with held | held <;> cases held.symm.trans status
  | closeConnection _ _ free =>
      rcases held with held | held <;> rcases free with free | ⟨_, free⟩ <;>
        cases held.symm.trans free
  | dialed pending | opened pending | unopened pending | prepared pending | failed pending
  | givenUp pending | channelClosed pending | channelLeft pending
  | connectionClosed pending => cases idle.symm.trans pending

/-- A channel that nothing is left to be done for: all that may come before the next one
is that the cell is emptied. -/
theorem Enters.withdrawn_of_free (enters : ledger.Enters limit time mark after)
    (free : ledger.channel.IsFree) (idle : ledger.pending? = none)
    (connected : ledger.connection? ≠ none)
    (goesOn : Entry.endsLife { time, mark } = false) :
    mark = .wrote none ∧ after = { ledger with session? := none } := by
  cases enters with
  | withdrawn idle => exact ⟨rfl, rfl⟩
  | dial _ idle alone => exact absurd alone connected
  | openChannel | closeConnection => cases goesOn
  | setUp _ _ status | refuse _ _ status | stored _ _ _ status =>
      rcases free with free | ⟨_, free⟩ <;> cases free.symm.trans status
  | closeChannel idle empty status =>
      rcases free with free | ⟨_, free⟩ <;> rcases status with status | status <;>
        cases free.symm.trans status
  | dialed pending | opened pending | unopened pending | prepared pending | failed pending
  | givenUp pending | channelClosed pending | channelLeft pending
  | connectionClosed pending => cases idle.symm.trans pending

theorem Lives.entry {entry : Entry} (lives : ledger.Lives limit channel life)
    (connected : ledger.connection? ≠ none)
    (enters : ledger.Enters limit entry.time entry.mark after)
    (goesOn : entry.endsLife = false) : after.Lives limit channel (life ++ [entry]) := by
  obtain ⟨time, mark⟩ := entry
  cases lives with
  | inSetup held setUp untouched => exact setUp_entry enters held setUp untouched
  | due held idle unclosed => exact due_entry enters held idle unclosed
  | @begun since early held pending split unclosed =>
      obtain ⟨rfl, ends⟩ := enters.of_closeChannel pending
      refine .closed rfl rfl ⟨early, since, { time := time, mark }, [], by simp [split], ?_, ?_⟩
      · exact ends.imp_right And.left
      · simpa using unclosed
  | closed free idle closed =>
      obtain ⟨rfl, rfl⟩ := enters.withdrawn_of_free (.inl free) idle connected goesOn
      exact .closed free idle (closed.append rfl)
  | givenUp left idle givenUp =>
      obtain ⟨rfl, rfl⟩ := enters.withdrawn_of_free (.inr ⟨_, left⟩) idle connected goesOn
      obtain ⟨untouched, upon, call, about, member⟩ := givenUp
      refine .givenUp left idle ⟨untouched.append rfl rfl ?_, upon, call, about, by simp [member]⟩
      rintro other - ⟨⟩

theorem Lives.connected (lives : ledger.Lives limit channel life)
    (connected : ledger.connection? ≠ none) (enters : ledger.Enters limit time mark after) :
    after.connection? ≠ none := by
  cases enters with
  | dialed => simp
  | @connectionClosed since number mark pending =>
      cases lives with
      | inSetup held setUp => cases setUp _ _ pending
      | begun _ begun => cases begun.symm.trans pending
      | due _ idle | closed _ idle | givenUp _ idle => cases idle.symm.trans pending
  | _ => exact connected

theorem Reads.lives {start : Ledger} (reads : Reads limit start life ledger)
    (held : start.channel = .inSetup channel) (idle : start.pending? = none)
    (connected : start.connection? ≠ none) (goesOn : ∀ entry ∈ life, entry.endsLife = false) :
    ledger.connection? ≠ none ∧ ledger.Lives limit channel life := by
  induction reads with
  | nothing => exact ⟨connected, .inSetup held (by simp [idle]) (by simp [Untouched])⟩
  | @entry life before after entry reads enters ih =>
      obtain ⟨connected, lives⟩ := ih fun other member => goesOn other (by simp [member])
      exact ⟨lives.connected connected enters,
        lives.entry connected enters (goesOn entry (by simp))⟩

theorem Lives.released (lives : ledger.Lives limit channel life) (free : ledger.channel.IsFree) :
    ClosedOnce limit channel life ∨ GivenUp channel life := by
  cases lives with
  | inSetup held => rcases free with free | ⟨_, free⟩ <;> cases held.symm.trans free
  | due held | begun held =>
      rcases held with held | held <;> rcases free with free | ⟨_, free⟩ <;>
        cases held.symm.trans free
  | closed free idle closed => exact .inl closed
  | givenUp left idle givenUp => exact .inr givenUp

end Ledger

/-! ## Calls that are given up -/

section

variable {plan : Plan} {run after : Run} {point : Point} {signals : Signals}
  {cells : SupervisorCells} {event : Event} {call : Call}

def Run.IsInterrupted (run : Run) : Prop :=
  run.cells.isShutDown = true ∨ ∃ connection stage deadline,
    run.point = .setup connection stage deadline ∧
      (run.signals.connection connection).isClosed = true

/-- A call is given up, if at all, for an interrupt and before anything else is done. -/
def Run.GivesUpFirst (run : Run) (added : List Entry) : Prop :=
  ∀ early time call late, added = early ++ { time, mark := .abandoned call } :: late →
    early = [] ∧ run.IsInterrupted

private theorem Run.isInterrupted_of_interrupt?
    (found : run.point.interrupt? run.signals run.cells = some event)
    (pending : run.point.call? plan = some call) : run.IsInterrupted := by
  cases Point.finds_of_interrupt? found with
  | shutdown isShutDown => exact .inl isShutDown
  | cutShort preparing closed => exact .inr ⟨_, _, _, preparing, closed⟩
  | begin atPoint | connectionClosed atPoint | channelClosed atPoint | asked atPoint =>
      rw [atPoint] at pending
      cases pending

private theorem Run.givesUpFirst_of_not_mem {added : List Entry}
    (none : ∀ time call, { time, mark := .abandoned call } ∉ added) : run.GivesUpFirst added := by
  intro early time call late split
  exact absurd (by simp [split]) (none time call)

private theorem not_abandoned_of_mem_entries {now : Nat} {reaction : Reaction} (time : Nat)
    (call : Call) :
    { time, mark := .abandoned call } ∉ reaction.entries plan now cells := by
  unfold Reaction.entries Next.entries
  cases reaction.next with
  | await point | proceed point => split <;> simp

private theorem Run.givesUpFirst_of_ending {ending : Call → Mark} {rest : List Entry}
    (none : ∀ time call, { time, mark := .abandoned call } ∉ rest)
    (interrupted : ∀ call given, run.point.call? plan = some call →
      ending call = .abandoned given → run.IsInterrupted) :
    run.GivesUpFirst (run.endEntries plan ending ++ rest) := by
  unfold endEntries
  split
  · cases pending : run.point.call? plan with
    | none => exact givesUpFirst_of_not_mem none
    | some call =>
        intro early time given late split
        cases early with
        | nil =>
            obtain ⟨same, -⟩ := List.cons.inj split
            exact ⟨rfl, interrupted call given pending (congrArg Entry.mark same)⟩
        | cons first early =>
            obtain ⟨-, rfl⟩ := List.cons.inj split
            exact absurd (by simp) (none time given)
  · exact givesUpFirst_of_not_mem none

private theorem Step.givesUpFirst (step : Step plan run after) :
    ∃ added, after.history = run.history ++ added ∧ run.GivesUpFirst added := by
  have reacts (ending : Call → Mark) (event : Event)
      (interrupted : ∀ call given, run.point.call? plan = some call →
        ending call = .abandoned given → run.IsInterrupted) :
      ∃ added, ((run.endCall plan ending).react plan event).history = run.history ++ added ∧
        run.GivesUpFirst added :=
    ⟨_, run.history_react_endCall plan ending event,
      Run.givesUpFirst_of_ending not_abandoned_of_mem_entries interrupted⟩
  cases step with
  | pass | signal | name | wake | poll | overlook | start | raise =>
      exact ⟨[], by simp [Run.name, Run.wake, Run.turn], Run.givesUpFirst_of_not_mem (by simp)⟩
  | take ending =>
      refine ⟨_, run.history_setCells _, Run.givesUpFirst_of_not_mem ?_⟩
      intro time call
      split <;> simp
  | call idle overlooked =>
      exact ⟨_, run.history_makeCall plan, Run.givesUpFirst_of_not_mem (by simp)⟩
  | look started looks found =>
      refine reacts .abandoned _ ?_
      intro call given pending _
      exact Run.isInterrupted_of_interrupt? found pending
  | reply | expire =>
      refine reacts _ _ ?_
      rintro call given - ⟨⟩

theorem Steps.history_prefix (taken : Steps plan run after) : run.history <+: after.history := by
  induction taken with
  | refl => exact List.prefix_rfl
  | tail _ step ih =>
      obtain ⟨added, told, -⟩ := step.givesUpFirst
      exact ih.trans ⟨added, told.symm⟩

private theorem exists_interrupted (reached : Reachable plan run) {before rest : List Entry}
    {time : Nat}
    (split : run.history = before ++ { time, mark := .abandoned call } :: rest) :
    ∃ former, Reachable plan former ∧ Steps plan former run ∧ former.history = before ∧
      former.IsInterrupted := by
  induction reached generalizing rest with
  | refl => simp at split
  | @tail former run reached step ih =>
      obtain ⟨added, told, first⟩ := step.givesUpFirst
      rw [told] at split
      rcases List.append_eq_append_iff.mp split with ⟨early, rfl, late⟩ | ⟨middle, earlier, late⟩
      · obtain ⟨rfl, interrupted⟩ := first _ _ _ _ late
        exact ⟨former, reached, .single step, by simp, interrupted⟩
      · cases middle with
        | nil =>
            obtain ⟨-, interrupted⟩ := first [] time call rest (by simpa using late.symm)
            exact ⟨former, reached, .single step, by simpa using earlier, interrupted⟩
        | cons head middle =>
            obtain ⟨rfl, -⟩ := List.cons.inj late
            obtain ⟨source, sourceReached, taken, same, interrupted⟩ := ih earlier
            exact ⟨source, sourceReached, taken.tail step, same, interrupted⟩

/-! ## Runs -/

/-- What is known of all connections and channels of a run. -/
structure ReleasesAll (plan : Plan) (run : Run) : Prop where
  connections : run.cells.state = .closed → ∀ connection,
    run.marks.countP (·.calls (.closeConnection connection)) =
      run.marks.countP (·.dials connection)
  redials : ∀ before since endpoint connection between upon again after,
    run.history =
      before ++ ⟨since, .returned (.connect endpoint) (.ok (.connection connection))⟩ :: between ++
        ⟨upon, .called (.connect again)⟩ :: after →
    Completes plan.settings.channelTimeout (.closeConnection connection) between
  closings : ∀ channel,
    run.marks.countP (·.calls (.closeChannel channel)) ≤ run.marks.countP (·.opens channel)
  channels : ∀ before since connection channel after,
    run.history =
      before ++ ⟨since, .returned (.openChannel connection) (.ok (.channel channel))⟩ :: after →
    (run.cells.state = .closed ∨ ∃ entry ∈ after, entry.endsLife = true) →
    ClosedOnce plan.settings.channelTimeout channel (lifeOf after) ∨ GivenUp channel (lifeOf after)
  interrupts : ∀ before time call after,
    run.history = before ++ ⟨time, .abandoned call⟩ :: after →
    ∃ former, Reachable plan former ∧ Steps plan former run ∧ former.history = before ∧
      (former.cells.isShutDown = true ∨ ∃ connection,
        IsOpenConnection former.marks connection ∧
          (former.signals.connection connection).isClosed = true)

private theorem Run.Agrees.handles_of_closed {ledger : Ledger} (agrees : run.Agrees plan ledger)
    (staged : run.IsStaged) (closed : run.cells.state = .closed) :
    ledger.handles = {} ∧ ledger.channel = .absent := by
  have empty : run.point.call? plan = none ∧ run.point.connection? = none ∧
      run.point.channelStatus = .absent := by
    have fits := staged.fits
    rw [closed] at fits
    cases atPoint : run.point with
    | entry | closed => exact ⟨rfl, rfl, rfl⟩
    | releaseChannel _ _ goal | releaseConnection _ goal =>
        rw [atPoint] at fits
        cases goal <;> simp [Point.FitsState, Goal.FitsState] at fits
    | _ =>
        rw [atPoint] at fits
        cases fits
  obtain ⟨quiet, connection, channel⟩ := empty
  have stands := agrees.stands_of_idle (.inr quiet)
  rw [Ledger.handles_of_idle stands.idle, stands.connection, stands.channel, connection, channel]
  exact ⟨rfl, rfl⟩

private theorem setup_call?_ne (plan : Plan) (connection : Nat) (stage : Stage)
    (deadline other : Nat) :
    (Point.setup connection stage deadline).call? plan ≠ some (.closeConnection other) := by
  cases stage with
  | install channel step =>
      intro same
      have about := setUp?_call plan.topology channel step
      rw [Option.some.inj same] at about
      cases about
  | _ => simp [Point.call?]

private theorem Run.isOpenConnection_of_setup {connection : Nat} {stage : Stage} {deadline : Nat}
    (reached : Reachable plan run) (atSetup : run.point = .setup connection stage deadline) :
    IsOpenConnection run.marks connection := by
  obtain ⟨ledger, reads, agrees⟩ := Run.isKept_of_reachable reached
  have held : ledger.connection? = some connection := by
    rw [agrees.connection, atSetup]
    rfl
  rw [Run.marks, reads.isOpenConnection_iff]
  unfold Ledger.handles
  split
  · next since other pending =>
    have under := agrees.pending
    rw [pending, atSetup] at under
    have other := setup_call?_ne plan connection stage deadline other
    split at under
    · exact absurd under.symm other
    · cases under
  · exact held
  · exact held

/-- After its opening a channel lives until the next one is turned to, or the end. -/
theorem Ledger.Reads.released {limit time connection channel : Nat} {start ledger opened : Ledger}
    {entries : List Entry}
    (opens : start.Enters limit time
      (.returned (.openChannel connection) (.ok (.channel channel))) opened)
    (reads : Ledger.Reads limit opened entries ledger)
    (ended : ledger.channel = .absent ∨ ∃ entry ∈ entries, entry.endsLife = true) :
    ClosedOnce limit channel (lifeOf entries) ∨ GivenUp channel (lifeOf entries) := by
  obtain ⟨connected, held, idle⟩ := opens.of_opened
  have parts : lifeOf entries ++ entries.dropWhile (fun entry => !entry.endsLife) = entries :=
    List.takeWhile_append_dropWhile
  rw [← parts] at reads
  obtain ⟨last, life, late⟩ := reads.split
  have goesOn (entry : Entry) (member : entry ∈ lifeOf entries) : entry.endsLife = false := by
    simpa using List.mem_takeWhile_imp member
  obtain ⟨-, lives⟩ := life.lives held idle connected goesOn
  refine lives.released ?_
  cases rest : entries.dropWhile (fun entry => !entry.endsLife) with
  | nil =>
      rw [rest] at late
      cases late.eq_of_nil
      rcases ended with free | ⟨entry, member, ends⟩
      · exact .inl free
      · rw [← parts, rest, List.append_nil] at member
        cases (goesOn entry member).symm.trans ends
  | cons next more =>
      rw [rest] at late
      obtain ⟨_, enters, -⟩ := late.head
      have first : entries.find? (·.endsLife) = some next := by
        rw [List.find?_eq_head?_dropWhile_not, rest]
        rfl
      exact enters.free_of_endsLife (List.find?_some first)

theorem releasesAll_of_reachable (reached : Reachable plan run) : ReleasesAll plan run := by
  have staged := Run.isStaged_of_reachable reached
  obtain ⟨ledger, reads, agrees⟩ := Run.isKept_of_reachable reached
  constructor
  · intro closed connection
    have handles := (agrees.handles_of_closed staged closed).1
    have dials := reads.dials_eq connection
    rw [handles] at dials
    simpa [Run.marks] using dials.symm
  · intro before since endpoint connection between upon again after split
    rw [split, List.append_assoc] at reads
    obtain ⟨middle, -, late⟩ := reads.split
    obtain ⟨dialed, returned, rest⟩ := late.head
    obtain ⟨last, between, again⟩ := rest.split
    obtain ⟨_, redials, -⟩ := again.head
    exact between.closed_between returned redials
  · intro channel
    have closings := reads.closings_le channel
    rw [Run.marks]
    omega
  · intro before since connection channel after split ended
    rw [split] at reads
    obtain ⟨start, -, late⟩ := reads.split
    obtain ⟨opened, opens, rest⟩ := late.head
    refine rest.released opens (ended.imp_left ?_)
    intro closed
    exact (agrees.handles_of_closed staged closed).2
  · intro before time call after split
    obtain ⟨former, source, taken, same, interrupted⟩ := exists_interrupted reached split
    refine ⟨former, source, taken, same, interrupted.imp_right ?_⟩
    rintro ⟨connection, stage, deadline, atSetup, closed⟩
    exact ⟨connection, Run.isOpenConnection_of_setup source atSetup, closed⟩

end

def oneQueueClosed : Run :=
  let ending : Run :=
    { oneQueueReplaced with
      cells := { oneQueueReplaced.cells with isShutDown := true, handle := .taken } }
  let left := ending.meet oneQueue .shutdown
  (left.receive oneQueue (.ok .done)).receive oneQueue (.ok .done)

theorem reachable_oneQueueClosed : Reachable oneQueue oneQueueClosed := by
  have raised := reachable_oneQueueReplaced.tail (.raise rfl)
  have ending := raised.tail (.take rfl)
  have left := ending.tail (.look (by decide) rfl rfl)
  have closed := left.tail (.answered .done rfl rfl rfl rfl)
  exact closed.tail (.answered .done rfl rfl rfl rfl)

theorem releasesAll_closed :
    oneQueueClosed.cells.state = .closed ∧ Reachable oneQueue oneQueueClosed ∧
      ReleasesAll oneQueue oneQueueClosed :=
  ⟨rfl, reachable_oneQueueClosed, releasesAll_of_reachable reachable_oneQueueClosed⟩

end AmqpClient.Supervisor
