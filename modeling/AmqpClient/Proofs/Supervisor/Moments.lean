import AmqpClient.Proofs.Supervisor.Routes
import AmqpClient.Proofs.Supervisor.Trail

/-!
# The moments of a run

While time is virtual, each moment either leaves the loop where it is or is one piece of
its work. What is on record at a moment tells which call is under way, which connection
was dialed last, and which channel was opened last on it.
-/

set_option autoImplicit false

namespace AmqpClient

def Call.dials : Call → Bool
  | .connect _ => true
  | _ => false

theorem Call.dials_of_opens {call : Call} (unopened : call.opens = false) : call.dials = false := by
  cases call with
  | connect endpoint => cases unopened
  | _ => rfl

namespace Supervisor

/-! ## What is on record -/

/-- No call of a kind was made. -/
def Without (kind : Call → Bool) (entries : List Entry) : Prop :=
  ∀ call ∈ issuedCalls entries, kind call = false

section

variable {plan : Plan} {run after : Run} {call : Call} {ending : Call → Mark} {event : Event}
  {kind : Call → Bool} {first second : List Entry}

namespace Without

theorem append (early : Without kind first) (late : Without kind second) :
    Without kind (first ++ second) := by
  intro call issued
  rw [issuedCalls_append] at issued
  rcases List.mem_append.mp issued with issued | issued
  · exact early call issued
  · exact late call issued

theorem of_issuedCalls (quiet : issuedCalls first = []) : Without kind first := by
  intro call issued
  rw [quiet] at issued
  cases issued

theorem single {entry : Entry} (told : ∀ call, entry.mark = .called call → kind call = false) :
    Without kind [entry] := by
  intro call issued
  obtain ⟨made, same, issued⟩ := List.mem_filterMap.mp issued
  cases List.mem_singleton.mp same
  unfold Mark.issued? at issued
  split at issued
  · next made called =>
    cases issued
    exact told call called
  · cases issued

theorem entries {now : Nat} {cells : SupervisorCells} {reaction : Reaction}
    (quiet : ∀ call ∈ reaction.next.issues plan, kind call = false) :
    Without kind (reaction.entries plan now cells) := by
  intro call issued
  rw [issuedCalls_entries] at issued
  exact quiet call issued

end Without

/-- The last entries of two histories that are the same are of one time. -/
theorem time_eq_of_last {early late : Entry} (same : first ++ [early] = second ++ [late]) :
    early.time = late.time := by
  obtain ⟨-, same⟩ := List.append_inj' same rfl
  cases same
  rfl

namespace Ledger.Reads

variable {limit connection channel : Nat} {ledger : Ledger} {entries : List Entry}

/-- The connection that is held was the last to be dialed. -/
theorem exists_dialed (reads : Ledger.Reads limit {} entries ledger)
    (held : ledger.connection? = some connection) :
    ∃ first time endpoint rest,
      entries = first ++
        { time, mark := .returned (.connect endpoint) (.ok (.connection connection)) } :: rest ∧
      Without Call.dials rest := by
  induction reads with
  | nothing => cases held
  | @entry entries before after entry reads enters ih =>
      have keeps (same : after.connection? = before.connection?)
          (quiet : ∀ call, entry.mark = .called call → call.dials = false) :
          ∃ first time endpoint rest,
            entries ++ [entry] = first ++
              { time, mark := .returned (.connect endpoint) (.ok (.connection connection)) } ::
                rest ∧
            Without Call.dials rest := by
        obtain ⟨first, time, endpoint, rest, told, undialed⟩ := ih (same.symm.trans held)
        exact ⟨first, time, endpoint, rest ++ [entry], by simp [told], undialed.append (.single quiet)⟩
      obtain ⟨time, mark⟩ := entry
      cases enters with
      | dial endpoint idle alone => cases alone.symm.trans held
      | dialed pending alone =>
          cases held
          exact ⟨entries, time, _, [], rfl, .of_issuedCalls rfl⟩
      | connectionClosed => cases held
      | setUp idle about =>
          refine keeps rfl ?_
          rintro call ⟨⟩
          exact Call.dials_of_opens (Call.opens_of_setUp? about)
      | unopened pending opens ends =>
          refine keeps rfl ?_
          rintro call rfl
          rcases ends with fails | same
          · cases fails
          · cases same
      | failed pending about held fails =>
          refine keeps rfl ?_
          rintro call rfl
          cases fails
      | channelClosed pending held ends =>
          refine keeps rfl ?_
          rintro call rfl
          cases ends
      | openChannel | refuse | closeChannel | closeConnection =>
          refine keeps rfl ?_
          rintro call ⟨⟩
          rfl
      | _ => exact keeps rfl nofun

/-- The channel that is set up was the last to be opened, on the connection that is held. -/
theorem exists_opened (reads : Ledger.Reads limit {} entries ledger)
    (held : ledger.connection? = some connection) (setUp : ledger.channel = .inSetup channel) :
    ∃ first time rest,
      entries = first ++
        { time, mark := .returned (.openChannel connection) (.ok (.channel channel)) } :: rest ∧
      Without Call.opens rest := by
  induction reads with
  | nothing => cases held
  | @entry entries before after entry reads enters ih =>
      have keeps (same : after.connection? = before.connection?)
          (still : after.channel = before.channel)
          (quiet : ∀ call, entry.mark = .called call → call.opens = false) :
          ∃ first time rest,
            entries ++ [entry] = first ++
              { time, mark := .returned (.openChannel connection) (.ok (.channel channel)) } ::
                rest ∧
            Without Call.opens rest := by
        obtain ⟨first, time, rest, told, unopened⟩ :=
          ih (same.symm.trans held) (still.symm.trans setUp)
        exact ⟨first, time, rest ++ [entry], by simp [told], unopened.append (.single quiet)⟩
      obtain ⟨time, mark⟩ := entry
      cases enters with
      | opened pending open_ free =>
          cases open_.symm.trans held
          cases setUp
          exact ⟨entries, time, [], rfl, .of_issuedCalls rfl⟩
      | setUp idle about =>
          refine keeps rfl rfl ?_
          rintro call ⟨⟩
          exact Call.opens_of_setUp? about
      | unopened pending opens ends =>
          refine keeps rfl rfl ?_
          rintro call rfl
          rcases ends with fails | same
          · cases fails
          · cases same
      | prepared | withdrawn => exact keeps rfl rfl nofun
      | dial _ idle alone free | openChannel idle open_ free | dialed pending alone free
      | connectionClosed pending open_ free => cases free.symm.trans setUp
      | closeChannel idle empty closing =>
          rcases closing with failed | stored
          · cases failed.symm.trans setUp
          · cases stored.symm.trans setUp
      | _ => cases setUp

end Ledger.Reads

namespace Run

/-- The call under way is the last on record, and a closing has the limit that it waits
for. -/
theorem exists_pending (reached : Reachable plan run) (calling : run.isCalling = true)
    (pending : run.point.call? plan = some call) :
    ∃ early since, run.history = early ++ [{ time := since, mark := .called call }] ∧
      (call.closes = true → ∀ deadline, run.point.deadline? = some deadline →
        deadline = since + plan.settings.channelTimeout) := by
  obtain ⟨ledger, reads, agrees⟩ := isKept_of_reachable reached
  obtain ⟨since, began⟩ := agrees.exists_pending calling pending
  obtain ⟨early, told⟩ := reads.last_of_pending began
  exact ⟨early, since, told, fun closes deadline => agrees.limit since call deadline began closes⟩

/-- Nothing is left to be called but what is called for after a fresh look. -/
theorem isBusy_eq_false (reached : Reachable plan run) (idle : run.isCalling = false) :
    run.point.isBusy = false := by
  obtain ⟨ledger, -, agrees⟩ := isKept_of_reachable reached
  by_contra busy
  cases idle.symm.trans (agrees.busy (by simpa using busy))

end Run

private theorem Reaction.time_of_mem_entries {now : Nat} {cells : SupervisorCells}
    {reaction : Reaction}
    {entry : Entry} (told : entry ∈ reaction.entries plan now cells) : entry.time = now := by
  rcases List.mem_append.mp told with written | called
  · split at written
    · cases written
    · cases List.mem_singleton.mp written
      rfl
  · cases next : reaction.next with
    | await point => simp [next, Next.entries] at called
    | proceed point =>
        rw [next] at called
        obtain ⟨call, -, rfl⟩ := List.mem_map.mp called
        rfl

namespace Run

private theorem time_of_mem_endEntries {entry : Entry} (told : entry ∈ run.endEntries plan ending) :
    entry.time = run.now := by
  unfold endEntries at told
  split at told
  · obtain ⟨call, -, rfl⟩ := List.mem_map.mp told
    rfl
  · cases told

/-- Nothing is on record before it has happened. -/
theorem time_le (reached : Reachable plan run) : ∀ entry ∈ run.history, entry.time ≤ run.now := by
  induction reached with
  | refl => simp
  | @tail run after before step ih =>
      have grows {more : List Entry} {later : Run} (told : later.history = run.history ++ more)
          (now : later.now = run.now) (fresh : ∀ entry ∈ more, entry.time = run.now) :
          ∀ entry ∈ later.history, entry.time ≤ later.now := by
        intro entry member
        rw [told] at member
        rw [now]
        rcases List.mem_append.mp member with early | late
        · exact ih entry early
        · exact (fresh entry late).le
      have reacts (ending : Call → Mark) (event : Event) :
          ∀ entry ∈ ((run.endCall plan ending).react plan event).history,
            entry.time ≤ ((run.endCall plan ending).react plan event).now := by
        refine grows (run.history_react_endCall plan ending event) ?_ ?_
        · rw [endCall_react_eq]
        · intro entry told
          rcases List.mem_append.mp told with ended | entered
          · exact time_of_mem_endEntries ended
          · exact Reaction.time_of_mem_entries entered
      cases step with
      | pass milliseconds =>
          intro entry told
          exact (ih entry told).trans (Nat.le_add_right _ _)
      | signal | start | raise | name | wake | poll | overlook => exact ih
      | take =>
          refine grows (run.history_setCells _) ?_ ?_
          · obtain ⟨history, same⟩ := run.setCells_eq run.cells.takeHandle
            rw [same]
          · intro entry told
            split at told
            · cases told
            · cases List.mem_singleton.mp told
              rfl
      | call =>
          refine grows (run.history_makeCall plan) ?_ ?_
          · obtain ⟨isCalling, history, same⟩ := run.makeCall_eq plan
            rw [same]
          · intro entry told
            obtain ⟨call, -, rfl⟩ := List.mem_map.mp told
            rfl
      | look | reply | expire => exact reacts _ _

end Run

/-! ## What a moment brings -/

/-- The loop is left where it is, with all that it has told. -/
structure Run.Stands (run after : Run) : Prop where
  point : after.point = run.point
  isCalling : after.isCalling = run.isCalling
  told : ∃ more, after.history = run.history ++ more ∧ issuedCalls more = [] ∧
    (run.point ≠ .entry → more = [])

private theorem Step.work_or_stands (step : Step plan run after) (coherent : run.IsCoherent) :
    Work plan run after ∨ run.Stands after := by
  have still (history : after.history = run.history) : ∃ more,
      after.history = run.history ++ more ∧ issuedCalls more = [] ∧
        (run.point ≠ .entry → more = []) :=
    ⟨[], by simp [history], rfl, fun _ => rfl⟩
  cases step with
  | pass | signal | start | raise | name | wake | poll => exact .inr ⟨rfl, rfl, still rfl⟩
  | take ending =>
      right
      have told := run.history_setCells run.cells.takeHandle
      obtain ⟨history, same⟩ := run.setCells_eq run.cells.takeHandle
      rw [same] at told still ⊢
      cases handle : run.cells.handle with
      | present =>
          refine ⟨rfl, rfl, still ?_⟩
          simpa [SupervisorCells.takeHandle_of_present handle] using told
      | absent =>
          refine ⟨rfl, rfl, _, told, ?_, fun away => absurd (coherent.unstarted handle) away⟩
          split <;> rfl
      | taken => exact absurd handle (coherent.ending ending).2
  | look started looks found => exact .inl (.look started looks found)
  | overlook looks none => exact .inl (.overlook looks none)
  | call idle overlooked => exact .inl (.call idle overlooked)
  | reply calling overlooked pending answers =>
      exact .inl (.reply calling overlooked pending answers)
  | expire waits overlooked limit due => exact .inl (.expire waits overlooked limit due)

theorem eq_connection_of_answers {answer : Answer} {endpoint : Endpoint}
    (answers : answer.answers (.connect endpoint) = true) : answer = .connection answer.id := by
  cases answer with
  | connection number => rfl
  | _ => cases answers

theorem eq_channel_of_answers {answer : Answer} {connection : Nat}
    (answers : answer.answers (.openChannel connection) = true) : answer = .channel answer.id := by
  cases answer with
  | channel number => rfl
  | _ => cases answers

/-- What ends a suspension of the loop: an interrupt, a reply, or a limit. -/
inductive Occurs (plan : Plan) (run : Run) : (Call → Mark) → Event → Prop where
  | interrupt {event : Event} (found : run.point.interrupt? run.signals run.cells = some event) :
      Occurs plan run .abandoned event
  | reply {call : Call} {reply : Reply} (calling : run.isCalling = true)
      (pending : run.point.call? plan = some call)
      (answers : ∀ answer, reply = .ok answer → answer.answers call = true) :
      Occurs plan run (.returned · reply) (.replied reply)
  | limit {deadline : Nat} (waits : run.IsWaiting plan)
      (limit : run.point.deadline? = some deadline) (due : deadline ≤ run.now) :
      Occurs plan run .cutOff .expired

namespace Occurs

theorem isTrue (occurs : Occurs plan run ending event) : IsTrue run.signals run.point event := by
  cases occurs with
  | interrupt found => exact isTrue_of_interrupt? found
  | reply | limit => exact isTrue_of_isEnd rfl

theorem issued? (occurs : Occurs plan run ending event) (call : Call) :
    (ending call).issued? = none := by
  cases occurs <;> rfl

theorem without (occurs : Occurs plan run ending event) (kind : Call → Bool) :
    Without kind (run.endEntries plan ending) :=
  .of_issuedCalls (Run.issuedCalls_endEntries occurs.issued?)

/-- Only a call under way comes to its end. -/
theorem calling (occurs : Occurs plan run ending event) (finished : event.isEnd = true)
    (pending : run.point.call? plan = some call) : run.isCalling = true := by
  cases occurs with
  | interrupt found => cases (isEnd_of_interrupt? found).symm.trans finished
  | reply calling => exact calling
  | limit waits =>
      rw [waits, pending]
      rfl

theorem endEntries_eq (calling : run.isCalling = true)
    (pending : run.point.call? plan = some call) :
    run.endEntries plan ending = [{ time := run.now, mark := ending call }] := by
  simp [Run.endEntries, calling, pending]

theorem fails (occurs : Occurs plan run ending event) (failed : event.isFailure = true)
    (call : Call) : (ending call).Fails call := by
  cases occurs with
  | interrupt found =>
      have never := isEnd_of_interrupt? found
      cases event with
      | replied reply | expired => cases never
      | _ => cases failed
  | @reply _ reply =>
      cases reply with
      | ok answer => cases failed
      | error error => exact .refused error
  | limit => exact .cutOff

theorem due (occurs : Occurs plan run ending event) (finished : event = .expired) :
    ∃ deadline, run.point.deadline? = some deadline ∧ deadline ≤ run.now := by
  subst finished
  cases occurs with
  | interrupt found => cases isEnd_of_interrupt? found
  | limit waits limit due => exact ⟨_, limit, due⟩

/-- A call that is over has returned, or its limit has been reached. -/
theorem ends {since limit : Nat} (occurs : Occurs plan run ending event)
    (finished : event.isEnd = true) (call : Call)
    (set : ∀ deadline, run.point.deadline? = some deadline → deadline = since + limit) :
    (ending call).Ends limit since run.now call := by
  cases occurs with
  | interrupt found => cases (isEnd_of_interrupt? found).symm.trans finished
  | reply => exact .returned _
  | limit waits due late => exact .cutOff (set _ due ▸ late)

theorem idle (occurs : Occurs plan run ending event) (idle : IsIdle plan run.point event) :
    run.point.call? plan = none := by
  rcases idle with quiet | ⟨open_, unmet⟩
  · exact quiet
  · cases occurs with
    | interrupt found => exact absurd found (unmet _ _)
    | reply | limit => cases open_

theorem route (occurs : Occurs plan run ending event) (reached : Reachable plan run) :
    Route plan run.signals run.now run.cells run.point event
      (Supervisor.react plan run.signals run.now run.cells run.point event) := by
  obtain ⟨ledger, -, agrees⟩ := Run.isKept_of_reachable reached
  exact react_route agrees.fits occurs.isTrue

end Occurs

/-- What a moment brings: something that leaves the loop where it is, or a piece of the
loop's own work. -/
inductive Course (plan : Plan) (run : Run) : Run → Prop where
  | stands {after : Run} (waits : run.IsWaiting plan) (stands : run.Stands after) :
      Course plan run after
  | overlook (none : run.point.interrupt? run.signals run.cells = none) :
      Course plan run run.turn
  | call (idle : run.isCalling = false) (overlooked : run.looks = false) :
      Course plan run (run.makeCall plan)
  | react {ending : Call → Mark} {event : Event} (occurs : Occurs plan run ending event) :
      Course plan run ((run.endCall plan ending).react plan event)

theorem Work.course (work : Work plan run after) : Course plan run after := by
  cases work with
  | look started looks found => exact .react (.interrupt found)
  | overlook looks none => exact .overlook none
  | call idle overlooked => exact .call idle overlooked
  | reply calling overlooked pending answers => exact .react (.reply calling pending answers)
  | expire waits overlooked limit due => exact .react (.limit waits limit due)

theorem Timed.course (timed : Timed plan run after) (coherent : run.IsCoherent) :
    Course plan run after := by
  cases timed with
  | work work => exact work.course
  | other waits step =>
      rcases step.work_or_stands coherent with work | stands
      · exact work.course
      · exact .stands waits stands

/-- A dial or the opening of a channel is called for right after a look. -/
theorem Course.opening_of_makes (course : Course plan run after) (reached : Reachable plan run)
    (makes : run.Makes after call) (opens : call.opens = true) :
    run.isCalling = false ∧ run.looks = false ∧ run.point.call? plan = some call := by
  cases course with
  | stands waits stands =>
      obtain ⟨more, told, called⟩ := makes
      obtain ⟨-, -, added, same, quiet, -⟩ := stands
      rw [List.append_cancel_left (told.symm.trans same), quiet] at called
      cases called
  | overlook none => exact absurd makes (Run.not_makes_of_eq rfl)
  | call idle overlooked => exact ⟨idle, overlooked, Run.makes_makeCall makes⟩
  | react occurs =>
      have issued := Run.issued_of_makes_react occurs.issued? makes
      cases opens.symm.trans ((occurs.route reached).opens_of_issued issued)

end

end Supervisor

end AmqpClient
