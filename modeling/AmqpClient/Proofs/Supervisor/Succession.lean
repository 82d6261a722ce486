import AmqpClient.Proofs.Supervisor.Handles
import AmqpClient.Proofs.Supervisor.Reconnect

/-!
# One session after another

Sessions are counted up from one. Before the next one is stored, the cell has been
emptied, and the closing of the last one's channel has come to an end. A session in
the cell is of the connection and of the channel that are open.
-/

set_option autoImplicit false

namespace AmqpClient.Supervisor

/-! ## Sessions in a history -/

def Mark.stores : Mark → Bool
  | .wrote (some _) => true
  | _ => false

def Entry.stores (entry : Entry) : Bool :=
  entry.mark.stores

/-- A call is made, and it returns or is cut off at its limit. -/
def Completes (limit : Nat) (call : Call) (entries : List Entry) : Prop :=
  ∃ since ending, ending.mark.Ends limit since ending.time call ∧
    [{ time := since, mark := .called call }, ending] <:+: entries

theorem Completes.append {limit : Nat} {call : Call} {entries : List Entry}
    (completes : Completes limit call entries) (more : List Entry) :
    Completes limit call (entries ++ more) := by
  obtain ⟨since, ending, ends, inside⟩ := completes
  exact ⟨since, ending, ends, inside.trans (List.prefix_append _ _).isInfix⟩

namespace Ledger

variable {limit time channel : Nat} {start ledger after : Ledger} {mark : Mark}
  {entries : List Entry} {session : Session}

/-- What a mark does to the session that is stored: only a write does anything. -/
theorem Enters.wrote_or_keeps (enters : ledger.Enters limit time mark after) :
    (∃ session, mark = .wrote (some session) ∧ ledger.session? = none ∧
        after.session? = some session ∧ session.generation = ledger.stored + 1 ∧
        after.stored = session.generation) ∨
      (mark = .wrote none ∧ after.session? = none ∨ after.session? = ledger.session?) ∧
        mark.stores = false ∧ after.stored = ledger.stored := by
  cases enters with
  | stored idle empty held prepared next => exact .inl ⟨_, rfl, empty, rfl, next, rfl⟩
  | withdrawn idle => exact .inr ⟨.inl ⟨rfl, rfl⟩, rfl, rfl⟩
  | unopened pending opens ends =>
      refine .inr ⟨.inr rfl, ?_, rfl⟩
      rcases ends with (_ | _) | rfl <;> rfl
  | failed pending about held fails =>
      refine .inr ⟨.inr rfl, ?_, rfl⟩
      cases fails <;> rfl
  | channelClosed pending held ends =>
      refine .inr ⟨.inr rfl, ?_, rfl⟩
      cases ends <;> rfl
  | connectionClosed pending held free ends =>
      refine .inr ⟨.inr rfl, ?_, rfl⟩
      cases ends <;> rfl
  | _ => exact .inr ⟨.inr rfl, rfl, rfl⟩

theorem Reads.stored_eq (reads : Reads limit start entries ledger) :
    ledger.stored = start.stored + entries.countP Entry.stores := by
  induction reads with
  | nothing => simp
  | @entry entries before after entry reads enters ih =>
      rw [List.countP_append, List.countP_singleton, Entry.stores]
      rcases enters.wrote_or_keeps with ⟨session, wrote, -, -, next, stored⟩ | ⟨-, not, same⟩
      · simp [wrote, Mark.stores, stored, next, ih, Nat.add_assoc]
      · simp [not, same, ih]

/-- A stored session stays in the cell until the cell is emptied. -/
theorem Reads.keeps_or_empties (reads : Reads limit start entries ledger)
    (held : start.session? = some session) :
    ledger.session? = some session ∨ ∃ time, { time, mark := .wrote none } ∈ entries := by
  induction reads with
  | nothing => exact .inl held
  | @entry entries before after entry reads enters ih =>
      rcases ih with kept | ⟨time, member⟩
      · rcases enters.wrote_or_keeps with ⟨other, -, empty, -⟩ | ⟨⟨wrote, -⟩ | same, -⟩
        · rw [empty] at kept
          cases kept
        · exact .inr ⟨entry.time, by simp [← wrote]⟩
        · exact .inl (same.trans kept)
      · exact .inr ⟨time, by simp [member]⟩

/-- How far the closing of a session's channel has come. -/
inductive Closing (limit channel : Nat) (ledger : Ledger) (entries : List Entry) : Prop where
  | due (held : ledger.channel = .stored channel) (idle : ledger.pending? = none)
  | begun {since : Nat} (held : ledger.channel = .stored channel)
      (pending : ledger.pending? = some (since, .closeChannel channel))
      (last : [{ time := since, mark := .called (.closeChannel channel) }] <:+ entries)
  | done (completes : Completes limit (.closeChannel channel) entries)

theorem Closing.entry {entry : Entry} (closing : ledger.Closing limit channel entries)
    (enters : ledger.Enters limit entry.time entry.mark after) :
    after.Closing limit channel (entries ++ [entry]) := by
  obtain ⟨time, mark⟩ := entry
  cases closing with
  | done completes => exact .done (completes.append _)
  | due held idle =>
      cases enters with
      | closeChannel idle empty status =>
          rw [held] at status
          rcases status with status | status <;> cases status
          exact .begun held rfl (List.suffix_append _ _)
      | withdrawn idle => exact .due held idle
      | closeConnection idle connection free =>
          rw [held] at free
          rcases free with free | ⟨_, free⟩ <;> cases free
      | dial _ _ _ status | openChannel _ _ status | setUp _ _ status | refuse _ _ status
      | stored _ _ _ status _ => cases held.symm.trans status
      | dialed pending | opened pending | unopened pending | prepared pending | failed pending
      | givenUp pending | channelClosed pending | channelLeft pending
      | connectionClosed pending => cases idle.symm.trans pending
  | begun held pending last =>
      obtain ⟨-, ends | ⟨-, failed⟩⟩ := enters.of_closeChannel pending
      · obtain ⟨earlier, rfl⟩ := last
        exact .done ⟨_, _, ends, ⟨earlier, [], by simp⟩⟩
      · cases held.symm.trans failed

theorem Reads.closing (reads : Reads limit start entries ledger)
    (held : start.channel = .stored channel) (idle : start.pending? = none) :
    ledger.Closing limit channel entries := by
  induction reads with
  | nothing => exact .due held idle
  | entry _ enters ih => exact ih.entry enters

private theorem Enters.of_stores (enters : ledger.Enters limit time (.wrote (some session)) after) :
    ledger.session? = none ∧ ledger.channel = .inSetup session.channel ∧
      session.generation = ledger.stored + 1 ∧ after.pending? = none ∧
      after.session? = some session ∧ after.channel = .stored session.channel := by
  cases enters with
  | stored idle empty held prepared next => exact ⟨empty, prepared, next, idle, rfl, rfl⟩
  | unopened pending opens ends => rcases ends with ends | ends <;> cases ends
  | failed pending about held fails => cases fails
  | channelClosed pending held ends => cases ends
  | connectionClosed pending held free ends => cases ends

/-- Between two sessions the cell is emptied, and the first one's channel is closed. -/
theorem Reads.between {first second : Session} {since upon : Nat} {between : List Entry}
    {before : Ledger} (stores : before.Enters limit since (.wrote (some first)) start)
    (reads : Reads limit start between ledger)
    (again : ledger.Enters limit upon (.wrote (some second)) after) :
    (∃ time, { time, mark := .wrote none } ∈ between) ∧
      Completes limit (.closeChannel first.channel) between := by
  obtain ⟨-, -, -, idle, held, status⟩ := stores.of_stores
  obtain ⟨empty, prepared, -⟩ := again.of_stores
  constructor
  · rcases reads.keeps_or_empties held with kept | emptied
    · cases empty.symm.trans kept
    · exact emptied
  · cases reads.closing status idle with
    | due status | begun status => cases prepared.symm.trans status
    | done completes => exact completes

end Ledger

/-! ## The sessions of a run -/

/-- What is known of all sessions that a run has stored. -/
structure InSuccession (plan : Plan) (run : Run) : Prop where
  counted : ∀ before time session after,
    run.history = before ++ { time, mark := .wrote (some session) } :: after →
    session.generation = before.countP Entry.stores + 1
  replaced : ∀ before since first between upon second after,
    run.history = before ++ { time := since, mark := .wrote (some first) } :: between ++
      { time := upon, mark := .wrote (some second) } :: after →
    (∃ time, { time, mark := .wrote none } ∈ between) ∧
      Completes plan.settings.channelTimeout (.closeChannel first.channel) between
  held : ∀ session, run.cells.session = some session →
    run.point = .ready session ∧
    (∀ connection, IsOpenConnection run.marks connection ↔ connection = session.connection) ∧
    ∀ connection channel, IsOpenChannel run.marks connection channel ↔
      connection = session.connection ∧ channel = session.channel

section

variable {plan : Plan} {run : Run} {ledger : Ledger} {session : Session}

private theorem Run.Agrees.handles_of_ready (agrees : run.Agrees plan ledger)
    (watched : run.point = .ready session) :
    ledger.handles =
      { connection? := some session.connection, channel? := some session.channel } := by
  have stands := agrees.stands_of_idle (.inr (by rw [watched]; rfl))
  rw [Ledger.handles_of_idle stands.idle, stands.connection, stands.channel, watched]
  rfl

/-- The generation of a session is told by how many were stored before it. -/
theorem generation_of_wrote (reached : Reachable plan run) {before after : List Entry}
    {time : Nat}
    (split : run.history = before ++ { time, mark := .wrote (some session) } :: after) :
    session.generation = before.countP Entry.stores + 1 := by
  obtain ⟨ledger, reads, -⟩ := Run.isKept_of_reachable reached
  rw [split] at reads
  obtain ⟨middle, early, late⟩ := reads.split
  obtain ⟨_, stores, -⟩ := late.head
  obtain ⟨-, -, next, -⟩ := stores.of_stores
  simpa [early.stored_eq] using next

theorem sessions_in_succession (reached : Reachable plan run) : InSuccession plan run := by
  have coherent := Run.isCoherent_of_reachable reached
  obtain ⟨ledger, reads, agrees⟩ := Run.isKept_of_reachable reached
  constructor
  · intro before time session after split
    exact generation_of_wrote reached split
  · intro before since first between upon second after split
    rw [split, List.append_assoc] at reads
    obtain ⟨middle, -, late⟩ := reads.split
    obtain ⟨stored, stores, rest⟩ := late.head
    obtain ⟨last, between, again⟩ := rest.split
    obtain ⟨_, storesAgain, -⟩ := again.head
    exact between.between stores storesAgain
  · intro session current
    have watched := (coherent.current session).mpr current
    have handles := agrees.handles_of_ready watched
    refine ⟨watched, ?_, ?_⟩
    · intro connection
      rw [Run.marks, reads.isOpenConnection_iff, handles]
      simp [eq_comm]
    · intro connection channel
      rw [Run.marks, reads.isOpenChannel_iff, handles]
      simp [eq_comm]

end

/-- The channel of the first session has ended. -/
def oneQueueLost : Run :=
  let gone : CloseCell := { reason := some "gone", version := 1 }
  { oneQueueReady with
    signals := {
      connection := fun _ => {}
      channel := fun channel => if channel = 0 then gone else {} } }

def oneQueueReplaced : Run :=
  let left := oneQueueLost.meet oneQueue (.channelClosed "gone")
  let closed := left.receive oneQueue (.ok .done)
  let opened := (closed.turn.makeCall oneQueue).receive oneQueue (.ok (.channel 1))
  opened.receive oneQueue (.ok (.found true))

theorem reachable_oneQueueReplaced : Reachable oneQueue oneQueueReplaced := by
  have lost : Reachable oneQueue oneQueueLost := reachable_oneQueueReady.tail (.signal _ _)
  have look : Step oneQueue oneQueueLost (oneQueueLost.meet oneQueue (.channelClosed "gone")) :=
    .look (by decide) rfl rfl
  have left := lost.tail look
  have closed := left.tail (.answered .done rfl rfl rfl rfl)
  have opening := (closed.tail (.overlook rfl rfl)).tail (.call rfl rfl)
  have opened := opening.tail (.answered (.channel 1) rfl rfl rfl rfl)
  exact opened.tail (.answered (.found true) rfl rfl rfl rfl)

theorem sessions_in_succession_replaced :
    oneQueueReplaced.cells.session = some { generation := 2, connection := 0, channel := 1 } ∧
      Reachable oneQueue oneQueueReplaced ∧ InSuccession oneQueue oneQueueReplaced :=
  ⟨rfl, reachable_oneQueueReplaced, sessions_in_succession reachable_oneQueueReplaced⟩

end AmqpClient.Supervisor
