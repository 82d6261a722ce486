import AmqpClient.Proofs.Supervisor.Session
import Mathlib.Data.List.Induction

/-!
# What the loop holds

The history of a run tells at any time which connection and which channel the loop
holds, which call is under way and which session is in the cell. Calls come one
after another. Connections come one after another, and on each of them channels:
a channel is closed before the next one is opened and before its connection is
closed, unless its setup was given up.
-/

set_option autoImplicit false

namespace AmqpClient

namespace Call

/-- The channel that a call of a setup is about. -/
def setUp? : Call → Option Nat
  | .queueExists channel _ | .declareQueue channel .. | .exchangeExists channel ..
  | .declareExchange channel .. | .bindQueue channel .. | .confirmSelect channel => some channel
  | _ => none

def opens : Call → Bool
  | .connect _ | .openChannel _ => true
  | _ => false

def closes : Call → Bool
  | .closeChannel _ | .closeConnection _ => true
  | _ => false

variable {call : Call} {channel : Nat}

theorem opens_of_setUp? (about : call.setUp? = some channel) : call.opens = false := by
  cases call <;> first | rfl | cases about

theorem closes_of_setUp? (about : call.setUp? = some channel) : call.closes = false := by
  cases call <;> first | rfl | cases about

theorem opens_of_closes (closes : call.closes = true) : call.opens = false := by
  cases call <;> first | rfl | cases closes

theorem closes_of_opens (opens : call.opens = true) : call.closes = false := by
  cases call <;> first | rfl | cases opens

end Call

namespace Supervisor

/-! ## Reading a history -/

/-- What has become of the channel that was opened last on the connection that is held. -/
inductive ChannelStatus where
  | absent
  | inSetup (channel : Nat)
  | failed (channel : Nat)
  | stored (channel : Nat)
  /-- Its setup was given up, and it is left to the end of its connection. -/
  | givenUp (channel : Nat)
  deriving DecidableEq

structure Ledger where
  connection? : Option Nat := none
  channel : ChannelStatus := .absent
  /-- The call under way, and when it was made. -/
  pending? : Option (Nat × Call) := none
  session? : Option Session := none
  stored : Nat := 0

/-- The call has not succeeded. -/
inductive Mark.Fails (call : Call) : Mark → Prop where
  | refused (error : ClientError) : Fails call (.returned call (.error error))
  | cutOff : Fails call (.cutOff call)

/-- A call that was made at some time has returned, or was cut off at its limit. -/
inductive Mark.Ends (limit since time : Nat) (call : Call) : Mark → Prop where
  | returned (reply : Reply) : Ends limit since time call (.returned call reply)
  | cutOff (late : since + limit ≤ time) : Ends limit since time call (.cutOff call)

namespace Ledger

def begin (time : Nat) (call : Call) (ledger : Ledger) : Ledger :=
  { ledger with pending? := some (time, call) }

def settle (ledger : Ledger) : Ledger :=
  { ledger with pending? := none }

/-- What may happen next, and how it changes what is held. -/
inductive Enters (limit : Nat) (ledger : Ledger) (time : Nat) : Mark → Ledger → Prop where
  | dial (endpoint : Endpoint) (idle : ledger.pending? = none)
      (alone : ledger.connection? = none) (free : ledger.channel = .absent) :
      Enters limit ledger time (.called (.connect endpoint)) (ledger.begin time (.connect endpoint))
  | openChannel {connection : Nat} (idle : ledger.pending? = none)
      (held : ledger.connection? = some connection) (free : ledger.channel = .absent) :
      Enters limit ledger time (.called (.openChannel connection))
        (ledger.begin time (.openChannel connection))
  | setUp {call : Call} {channel : Nat} (idle : ledger.pending? = none)
      (about : call.setUp? = some channel) (held : ledger.channel = .inSetup channel) :
      Enters limit ledger time (.called call) (ledger.begin time call)
  /-- The setup has failed without a call. -/
  | refuse {channel : Nat} (idle : ledger.pending? = none) (empty : ledger.session? = none)
      (held : ledger.channel = .inSetup channel) :
      Enters limit ledger time (.called (.closeChannel channel))
        { ledger.begin time (.closeChannel channel) with channel := .failed channel }
  | closeChannel {channel : Nat} (idle : ledger.pending? = none) (empty : ledger.session? = none)
      (held : ledger.channel = .failed channel ∨ ledger.channel = .stored channel) :
      Enters limit ledger time (.called (.closeChannel channel))
        (ledger.begin time (.closeChannel channel))
  | closeConnection {connection : Nat} (idle : ledger.pending? = none)
      (held : ledger.connection? = some connection)
      (free : ledger.channel = .absent ∨ ∃ channel, ledger.channel = .givenUp channel) :
      Enters limit ledger time (.called (.closeConnection connection))
        { ledger.begin time (.closeConnection connection) with channel := .absent }
  | dialed {endpoint : Endpoint} {since connection : Nat}
      (pending : ledger.pending? = some (since, .connect endpoint))
      (alone : ledger.connection? = none) (free : ledger.channel = .absent) :
      Enters limit ledger time (.returned (.connect endpoint) (.ok (.connection connection)))
        { ledger.settle with connection? := some connection }
  | opened {connection since channel : Nat}
      (pending : ledger.pending? = some (since, .openChannel connection))
      (held : ledger.connection? = some connection) (free : ledger.channel = .absent) :
      Enters limit ledger time (.returned (.openChannel connection) (.ok (.channel channel)))
        { ledger.settle with channel := .inSetup channel }
  | unopened {call : Call} {since : Nat} {mark : Mark}
      (pending : ledger.pending? = some (since, call)) (opens : call.opens = true)
      (ends : mark.Fails call ∨ mark = .abandoned call) :
      Enters limit ledger time mark ledger.settle
  | prepared {call : Call} {since channel : Nat} {answer : Answer}
      (pending : ledger.pending? = some (since, call)) (about : call.setUp? = some channel) :
      Enters limit ledger time (.returned call (.ok answer)) ledger.settle
  | failed {call : Call} {since channel : Nat} {mark : Mark}
      (pending : ledger.pending? = some (since, call)) (about : call.setUp? = some channel)
      (held : ledger.channel = .inSetup channel) (fails : mark.Fails call) :
      Enters limit ledger time mark { ledger.settle with channel := .failed channel }
  | givenUp {call : Call} {since channel : Nat}
      (pending : ledger.pending? = some (since, call)) (about : call.setUp? = some channel)
      (held : ledger.channel = .inSetup channel) :
      Enters limit ledger time (.abandoned call)
        { ledger.settle with channel := .givenUp channel }
  | channelClosed {since channel : Nat} {mark : Mark}
      (pending : ledger.pending? = some (since, .closeChannel channel))
      (held : ledger.channel = .failed channel ∨ ledger.channel = .stored channel)
      (ends : mark.Ends limit since time (.closeChannel channel)) :
      Enters limit ledger time mark { ledger.settle with channel := .absent }
  /-- Only the closing of a channel whose setup has failed can be interrupted. -/
  | channelLeft {since channel : Nat}
      (pending : ledger.pending? = some (since, .closeChannel channel))
      (held : ledger.channel = .failed channel) :
      Enters limit ledger time (.abandoned (.closeChannel channel))
        { ledger.settle with channel := .absent }
  | connectionClosed {since connection : Nat} {mark : Mark}
      (pending : ledger.pending? = some (since, .closeConnection connection))
      (held : ledger.connection? = some connection) (free : ledger.channel = .absent)
      (ends : mark.Ends limit since time (.closeConnection connection)) :
      Enters limit ledger time mark { ledger.settle with connection? := none }
  | stored {session : Session} (idle : ledger.pending? = none) (empty : ledger.session? = none)
      (held : ledger.connection? = some session.connection)
      (prepared : ledger.channel = .inSetup session.channel)
      (next : session.generation = ledger.stored + 1) :
      Enters limit ledger time (.wrote (some session))
        { ledger with
          channel := .stored session.channel
          session? := some session
          stored := session.generation }
  | withdrawn (idle : ledger.pending? = none) :
      Enters limit ledger time (.wrote none) { ledger with session? := none }

section

variable {limit since time channel connection : Nat} {ledger after : Ledger} {mark : Mark}

/-- The closing of a channel comes to its end before anything else happens. -/
theorem Enters.of_closeChannel (enters : ledger.Enters limit time mark after)
    (pending : ledger.pending? = some (since, .closeChannel channel)) :
    after = { ledger.settle with channel := .absent } ∧
      (mark.Ends limit since time (.closeChannel channel) ∨
        mark = .abandoned (.closeChannel channel) ∧ ledger.channel = .failed channel) := by
  cases enters with
  | channelClosed begun held ends =>
      cases pending.symm.trans begun
      exact ⟨rfl, .inl ends⟩
  | channelLeft begun held =>
      cases pending.symm.trans begun
      exact ⟨rfl, .inr ⟨rfl, held⟩⟩
  | dialed begun | opened begun | connectionClosed begun => cases pending.symm.trans begun
  | unopened begun opens =>
      cases pending.symm.trans begun
      cases opens
  | prepared begun about | failed begun about | givenUp begun about =>
      cases pending.symm.trans begun
      cases about
  | dial _ idle | openChannel idle | setUp idle | refuse idle | closeChannel idle
  | closeConnection idle | stored idle | withdrawn idle => cases pending.symm.trans idle

theorem Enters.of_closeConnection (enters : ledger.Enters limit time mark after)
    (pending : ledger.pending? = some (since, .closeConnection connection)) :
    after = { ledger.settle with connection? := none } ∧
      mark.Ends limit since time (.closeConnection connection) := by
  cases enters with
  | connectionClosed begun held free ends =>
      cases pending.symm.trans begun
      exact ⟨rfl, ends⟩
  | dialed begun | opened begun | channelClosed begun | channelLeft begun =>
      cases pending.symm.trans begun
  | unopened begun opens =>
      cases pending.symm.trans begun
      cases opens
  | prepared begun about | failed begun about | givenUp begun about =>
      cases pending.symm.trans begun
      cases about
  | dial _ idle | openChannel idle | setUp idle | refuse idle | closeChannel idle
  | closeConnection idle | stored idle | withdrawn idle => cases pending.symm.trans idle

end

inductive Reads (limit : Nat) (start : Ledger) : List Entry → Ledger → Prop where
  | nothing : Reads limit start [] start
  | entry {entries : List Entry} {before after : Ledger} {entry : Entry}
      (reads : Reads limit start entries before)
      (enters : before.Enters limit entry.time entry.mark after) :
      Reads limit start (entries ++ [entry]) after

namespace Reads

variable {limit : Nat} {start before middle after : Ledger} {first second : List Entry}

theorem single {time : Nat} {mark : Mark} (enters : start.Enters limit time mark after) :
    Reads limit start [{ time, mark }] after :=
  Reads.nothing.entry enters

theorem trans (reads : Reads limit start first middle) (more : Reads limit middle second after) :
    Reads limit start (first ++ second) after := by
  induction more with
  | nothing => simpa using reads
  | entry _ enters ih =>
      rw [← List.append_assoc]
      exact ih.entry enters

/-- What is read of two histories in a row is read one after the other. -/
theorem split (reads : Reads limit start (first ++ second) after) :
    ∃ middle, Reads limit start first middle ∧ Reads limit middle second after := by
  induction second using List.reverseRecOn generalizing after with
  | nil => exact ⟨after, by simpa using reads, .nothing⟩
  | append_singleton second last ih =>
      rw [← List.append_assoc] at reads
      generalize whole : first ++ second ++ [last] = entries at reads
      cases reads with
      | nothing => simp at whole
      | entry reads enters =>
          obtain ⟨rfl, same⟩ := List.append_inj' whole rfl
          cases same
          obtain ⟨middle, early, late⟩ := ih reads
          exact ⟨middle, early, late.entry enters⟩

theorem eq_of_nil (reads : Reads limit start [] after) : after = start := by
  generalize nothing : [] = entries at reads
  cases reads with
  | nothing => rfl
  | entry => simp at nothing

theorem head {entry : Entry} (reads : Reads limit start (entry :: second) after) :
    ∃ middle, start.Enters limit entry.time entry.mark middle ∧
      Reads limit middle second after := by
  obtain ⟨middle, early, late⟩ : ∃ middle, Reads limit start [entry] middle ∧
      Reads limit middle second after := reads.split
  generalize alone : [entry] = entries at early
  cases early with
  | nothing => cases alone
  | entry reads enters =>
      have whole : ([] : List Entry) ++ [entry] = _ := alone
      obtain ⟨rfl, same⟩ := List.append_inj' whole rfl
      cases same
      cases reads.eq_of_nil
      exact ⟨middle, enters, late⟩

/-- Nothing happens between a call and its end. -/
theorem last_of_pending {entries : List Entry} {call : Call} {since : Nat}
    (reads : Reads limit {} entries after) (pending : after.pending? = some (since, call)) :
    ∃ early, entries = early ++ [{ time := since, mark := .called call }] := by
  cases reads with
  | nothing => cases pending
  | @entry early before _ last reads enters =>
      obtain ⟨time, mark⟩ := last
      refine ⟨early, ?_⟩
      cases enters with
      | dial | openChannel | setUp | refuse | closeChannel | closeConnection =>
          cases pending
          rfl
      | stored idle | withdrawn idle => cases idle.symm.trans pending
      | _ => cases pending

end Reads

end Ledger

end Supervisor

end AmqpClient
