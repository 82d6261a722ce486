import AmqpClient.Proofs.Supervisor.Bookkeeping

/-!
# Open connections and channels

A connection is open from the return of its dial to the call that closes it, and a
channel to the call that closes it or its connection. The ledger tells at any time
which connection and which channel are open.
-/

set_option autoImplicit false

namespace AmqpClient.Supervisor

/-! ## What lasts -/

/-- Something was opened, and it has not been closed since. -/
def Lasts (opens closes : Mark → Prop) (marks : List Mark) : Prop :=
  ∃ before opening after, marks = before ++ opening :: after ∧ opens opening ∧
    ∀ mark ∈ after, ¬ closes mark

private theorem lasts_append {opens closes : Mark → Prop} {marks : List Mark} {mark : Mark} :
    Lasts opens closes (marks ++ [mark]) ↔
      opens mark ∨ Lasts opens closes marks ∧ ¬ closes mark := by
  constructor
  · rintro ⟨before, opening, after, split, opened, kept⟩
    rcases after.eq_nil_or_concat with rfl | ⟨inner, last, rfl⟩
    · obtain ⟨-, same⟩ := List.append_inj' split rfl
      cases same
      exact .inl opened
    · rw [List.concat_eq_append, ← List.cons_append, ← List.append_assoc] at split
      obtain ⟨same, added⟩ := List.append_inj' split rfl
      cases added
      refine .inr ⟨⟨before, opening, inner, same, opened, ?_⟩, kept _ (by simp)⟩
      intro mark member
      exact kept mark (by simp [member])
  · rintro (opened | ⟨⟨before, opening, after, rfl, opened, kept⟩, stays⟩)
    · exact ⟨marks, mark, [], rfl, opened, by simp⟩
    · refine ⟨before, opening, after ++ [mark], by simp, opened, ?_⟩
      intro other member
      rcases List.mem_append.mp member with early | late
      · exact kept other early
      · rw [List.mem_singleton.mp late]
        exact stays

/-! ## What is open -/

/-- A dial has returned the connection. -/
def Mark.dials (connection : Nat) : Mark → Bool
  | .returned (.connect _) (.ok (.connection dialed)) => dialed = connection
  | _ => false

def Mark.opens (channel : Nat) : Mark → Bool
  | .returned (.openChannel _) (.ok (.channel opened)) => opened = channel
  | _ => false

def Mark.calls (call : Call) : Mark → Bool
  | .called made => made = call
  | _ => false

def IsOpenConnection (marks : List Mark) (connection : Nat) : Prop :=
  Lasts (·.dials connection) (·.calls (.closeConnection connection)) marks

def IsOpenChannel (marks : List Mark) (connection channel : Nat) : Prop :=
  Lasts (· = .returned (.openChannel connection) (.ok (.channel channel)))
    (fun mark => mark.calls (.closeChannel channel) ∨ mark.calls (.closeConnection connection))
    marks

structure Handles where
  connection? : Option Nat := none
  channel? : Option Nat := none

def ChannelStatus.number? : ChannelStatus → Option Nat
  | .absent => none
  | .inSetup channel | .failed channel | .stored channel | .givenUp channel => some channel

/-- What is being closed is not open any more. -/
def Ledger.handles (ledger : Ledger) : Handles :=
  match ledger.pending? with
  | some (_, .closeConnection _) => {}
  | some (_, .closeChannel _) => { connection? := ledger.connection? }
  | _ => { connection? := ledger.connection?, channel? := ledger.channel.number? }

/-- Whether something is opened, or begins to be closed. -/
def Mark.movesHandles : Mark → Bool
  | .called call => call.closes
  | .returned call (.ok _) => call.opens
  | _ => false

section

variable {mark : Mark}

private theorem Mark.dials_of_quiet (quiet : mark.movesHandles = false) (connection : Nat) :
    mark.dials connection = false := by
  unfold Mark.dials
  split
  · cases quiet
  · rfl

private theorem Mark.opens_of_quiet (quiet : mark.movesHandles = false) (channel : Nat) :
    mark.opens channel = false := by
  unfold Mark.opens
  split
  · cases quiet
  · rfl

private theorem Mark.calls_of_quiet (quiet : mark.movesHandles = false) (call : Call)
    (closes : call.closes = true) : mark.calls call = false := by
  unfold Mark.calls
  split
  · next made =>
    have other : made ≠ call := by
      rintro rfl
      cases closes.symm.trans quiet
    simpa using other
  · rfl

theorem Mark.Fails.quiet {call : Call} (fails : mark.Fails call) :
    mark.movesHandles = false := by
  cases fails <;> rfl

theorem Mark.Ends.quiet {limit since time : Nat} {call : Call}
    (ends : mark.Ends limit since time call) (closes : call.closes = true) :
    mark.movesHandles = false := by
  cases ends with
  | returned reply =>
      cases reply with
      | ok answer => exact Call.opens_of_closes closes
      | error error => rfl
  | cutOff late => rfl

end

inductive Handles.Moves (handles : Handles) : Mark → Handles → Prop where
  | dialed (endpoint : Endpoint) (connection : Nat) (empty : handles = {}) :
      Moves handles (.returned (.connect endpoint) (.ok (.connection connection)))
        { connection? := some connection }
  | opened (connection channel : Nat) (alone : handles = { connection? := some connection }) :
      Moves handles (.returned (.openChannel connection) (.ok (.channel channel)))
        { connection? := some connection, channel? := some channel }
  | closesChannel (channel : Nat) (held : handles.channel? = some channel) :
      Moves handles (.called (.closeChannel channel)) { handles with channel? := none }
  | closesConnection (connection : Nat) (held : handles.connection? = some connection) :
      Moves handles (.called (.closeConnection connection)) {}
  | kept {mark : Mark} (quiet : mark.movesHandles = false) : Moves handles mark handles

namespace Handles.Moves

variable {handles after : Handles} {mark : Mark}

private theorem connection_iff (moves : handles.Moves mark after) (connection : Nat) :
    after.connection? = some connection ↔
      mark.dials connection ∨
        handles.connection? = some connection ∧ ¬ mark.calls (.closeConnection connection) := by
  cases moves with
  | dialed endpoint dialed empty => simp [Mark.dials, empty]
  | opened opened channel alone => simp [Mark.dials, Mark.calls, alone]
  | closesChannel channel held => simp [Mark.dials, Mark.calls]
  | closesConnection closed held => simp [Mark.dials, Mark.calls, held]
  | kept quiet =>
      have calls := Mark.calls_of_quiet quiet (.closeConnection connection) rfl
      simp [Mark.dials_of_quiet quiet, calls]

private theorem channel_iff (moves : handles.Moves mark after) (connection channel : Nat) :
    after.connection? = some connection ∧ after.channel? = some channel ↔
      mark = .returned (.openChannel connection) (.ok (.channel channel)) ∨
        (handles.connection? = some connection ∧ handles.channel? = some channel) ∧
          ¬ (mark.calls (.closeChannel channel) ∨ mark.calls (.closeConnection connection)) := by
  cases moves with
  | dialed endpoint dialed empty => simp [empty]
  | opened opened number alone => simp [Mark.calls, alone]
  | closesChannel closed held => simp +contextual [Mark.calls, held]
  | closesConnection closed held => simp +contextual [Mark.calls, held]
  | kept quiet =>
      have still : mark ≠ .returned (.openChannel connection) (.ok (.channel channel)) := by
        rintro rfl
        cases quiet
      have callsChannel := Mark.calls_of_quiet quiet (.closeChannel channel) rfl
      have callsConnection := Mark.calls_of_quiet quiet (.closeConnection connection) rfl
      simp [still, callsChannel, callsConnection]

/-- Every connection that was dialed is held or has been called upon to end. -/
theorem dials_eq (moves : handles.Moves mark after) (connection : Nat) :
    (if handles.connection? = some connection then 1 else 0) + [mark].countP (·.dials connection) =
      [mark].countP (·.calls (.closeConnection connection)) +
        if after.connection? = some connection then 1 else 0 := by
  cases moves with
  | dialed endpoint dialed empty => simp [Mark.dials, Mark.calls, empty]
  | opened opened channel alone => simp [Mark.dials, Mark.calls, alone]
  | closesChannel channel held => simp [Mark.dials, Mark.calls]
  | closesConnection closed held => simp [Mark.dials, Mark.calls, held, eq_comm]
  | kept quiet =>
      have calls := Mark.calls_of_quiet quiet (.closeConnection connection) rfl
      simp [Mark.dials_of_quiet quiet, calls]

/-- No channel is closed that is not open. -/
theorem closings_le (moves : handles.Moves mark after) (channel : Nat) :
    [mark].countP (·.calls (.closeChannel channel)) +
        (if after.channel? = some channel then 1 else 0) ≤
      (if handles.channel? = some channel then 1 else 0) + [mark].countP (·.opens channel) := by
  cases moves with
  | dialed endpoint dialed empty => simp [Mark.opens, Mark.calls]
  | opened opened channel alone => simp [Mark.opens, Mark.calls, alone]
  | closesChannel channel held => simp [Mark.opens, Mark.calls, held, eq_comm]
  | closesConnection closed held => simp [Mark.opens, Mark.calls]
  | kept quiet =>
      have calls := Mark.calls_of_quiet quiet (.closeChannel channel) rfl
      simp [Mark.opens_of_quiet quiet, calls]

end Handles.Moves

namespace Ledger

variable {limit time : Nat} {start ledger after : Ledger} {mark : Mark} {call : Call}
  {entries : List Entry}

theorem handles_of_idle (idle : ledger.pending? = none) :
    ledger.handles =
      { connection? := ledger.connection?, channel? := ledger.channel.number? } := by
  simp [handles, idle]

private theorem handles_of_pending {since : Nat} (pending : ledger.pending? = some (since, call))
    (other : call.closes = false) :
    ledger.handles =
      { connection? := ledger.connection?, channel? := ledger.channel.number? } := by
  cases call with
  | closeChannel | closeConnection => cases other
  | _ => simp [handles, pending]

private theorem handles_begin (idle : ledger.pending? = none) (other : call.closes = false) :
    (ledger.begin time call).handles = ledger.handles := by
  rw [handles_of_idle idle, handles_of_pending rfl other]
  rfl

private theorem handles_settle {since : Nat} (pending : ledger.pending? = some (since, call))
    (other : call.closes = false) : ledger.settle.handles = ledger.handles := by
  rw [handles_of_idle rfl, handles_of_pending pending other]
  rfl

theorem Enters.handles_moves (enters : ledger.Enters limit time mark after) :
    ledger.handles.Moves mark after.handles := by
  have keeps (same : after.handles = ledger.handles) (quiet : mark.movesHandles = false) :
      ledger.handles.Moves mark after.handles := by
    rw [same]
    exact .kept quiet
  cases enters with
  | dial endpoint idle alone free => exact keeps (handles_begin idle rfl) rfl
  | openChannel idle held free => exact keeps (handles_begin idle rfl) rfl
  | setUp idle about held =>
      have other := Call.closes_of_setUp? about
      exact keeps (handles_begin idle other) other
  | refuse idle empty held =>
      rw [handles_of_idle idle, held]
      exact .closesChannel _ rfl
  | @closeChannel channel idle empty held =>
      have number : ledger.channel.number? = some channel := by
        rcases held with held | held <;> simp [held, ChannelStatus.number?]
      rw [handles_of_idle idle, number]
      exact .closesChannel _ rfl
  | closeConnection idle held free =>
      rw [handles_of_idle idle, held]
      exact .closesConnection _ rfl
  | @dialed endpoint since connection pending alone free =>
      have after : ({ ledger.settle with connection? := some connection } : Ledger).handles =
          { connection? := some connection } := by
        simp [handles, settle, free, ChannelStatus.number?]
      rw [after]
      exact .dialed endpoint connection (by simp [handles_of_pending pending rfl, alone, free,
        ChannelStatus.number?])
  | @opened connection since channel pending held free =>
      have after : ({ ledger.settle with channel := .inSetup channel } : Ledger).handles =
          { connection? := some connection, channel? := some channel } := by
        simp [handles, settle, held, ChannelStatus.number?]
      rw [after]
      exact .opened connection channel (by simp [handles_of_pending pending rfl, held, free,
        ChannelStatus.number?])
  | unopened pending opens ends =>
      refine keeps (handles_settle pending (Call.closes_of_opens opens)) ?_
      rcases ends with ends | rfl
      · exact ends.quiet
      · rfl
  | prepared pending about =>
      exact keeps (handles_settle pending (Call.closes_of_setUp? about))
        (Call.opens_of_setUp? about)
  | failed pending about held fails =>
      refine keeps ?_ fails.quiet
      rw [handles_of_pending pending (Call.closes_of_setUp? about), held]
      rfl
  | givenUp pending about held =>
      refine keeps ?_ rfl
      rw [handles_of_pending pending (Call.closes_of_setUp? about), held]
      rfl
  | channelClosed pending held ends =>
      refine keeps ?_ (ends.quiet rfl)
      simp [handles, settle, pending, ChannelStatus.number?]
  | channelLeft pending held =>
      refine keeps ?_ rfl
      simp [handles, settle, pending, ChannelStatus.number?]
  | connectionClosed pending held free ends =>
      refine keeps ?_ (ends.quiet rfl)
      simp [handles, settle, pending, free, ChannelStatus.number?]
  | stored idle empty held prepared next =>
      refine keeps ?_ rfl
      simp [handles, idle, prepared, ChannelStatus.number?]
  | withdrawn idle =>
      refine keeps ?_ rfl
      simp [handles, idle]

theorem Reads.isOpenConnection_iff (reads : Reads limit {} entries ledger) (connection : Nat) :
    IsOpenConnection (entries.map (·.mark)) connection ↔
      ledger.handles.connection? = some connection := by
  unfold IsOpenConnection
  induction reads with
  | nothing => simp [Lasts, handles]
  | entry reads enters ih =>
      rw [List.map_append, List.map_cons, List.map_nil, lasts_append, ih,
        enters.handles_moves.connection_iff]

theorem Reads.isOpenChannel_iff (reads : Reads limit {} entries ledger) (connection channel : Nat) :
    IsOpenChannel (entries.map (·.mark)) connection channel ↔
      ledger.handles.connection? = some connection ∧ ledger.handles.channel? = some channel := by
  unfold IsOpenChannel
  induction reads with
  | nothing => simp [Lasts, handles]
  | entry reads enters ih =>
      rw [List.map_append, List.map_cons, List.map_nil, lasts_append, ih,
        enters.handles_moves.channel_iff]

end Ledger

end AmqpClient.Supervisor
