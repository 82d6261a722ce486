import AmqpClient.Proofs.Consumer.Entries

/-!
# A consumer does not give up

Whatever fails, a call or a stream, the consumer pauses, asks once for a session newer than
the one that failed, and waits for it. Nothing but a shutdown ends it, and its result is a
success then.
-/

set_option autoImplicit false

namespace AmqpClient.Consumer.Diary

/-! ## What follows from a failure -/

/-- The generation on which a mark tells of a failure. -/
def Mark.failure? : Mark → Option Nat
  | .returned session _ (.error _) | .cutOff session _ => some session.generation
  | .left generation (.failed _) => some generation
  | _ => none

private theorem Mark.mayEnd_of_failure? {mark : Mark} {generation : Nat}
    (failure : mark.failure? = some generation) : mark.mayEnd = false := by
  cases mark with
  | returned session call reply =>
      cases reply with
      | ok answer => cases failure
      | error error => rfl
  | left other exit =>
      cases exit with
      | shutdown => cases failure
      | failed reason => rfl
  | cutOff => rfl
  | began | took | called | abandoned | failed | asked | finished => cases failure

namespace Stands

variable {plan : Plan} {isCalling : Bool} {point : Point} {time generation : Nat} {mark : Mark}

private theorem of_failure (stands : Stands plan isCalling point { time, mark })
    (failure : mark.failure? = some generation) :
    ∃ reason, point.exit? = some (generation, .failed reason) := by
  cases stands with
  | @leave _ _ _ _ exit ending =>
      cases exit with
      | shutdown => cases failure
      | failed reason =>
          cases failure
          exact ⟨reason, ending⟩
  | begin | resume | limit | limiting | subscribe | subscribing | stream | pause | finish =>
      cases failure

private theorem of_failed
    (stands : Stands plan isCalling point { time, mark := .failed generation }) :
    point = .pausing generation (time + plan.settings.resubscribeDelay) := by
  cases stands with
  | pause => rfl

private theorem of_finished {result : Except ClientError Unit}
    (stands : Stands plan isCalling point { time, mark := .finished result }) :
    point = .finished (.ok ()) := by
  cases stands with
  | finish => rfl

private theorem finished_eq {last : Entry} {result : Except ClientError Unit}
    (stands : Stands plan isCalling (.finished result) last) : result = .ok () := by
  cases stands with
  | finish => rfl
  | leave ending => cases ending

private theorem of_awaiting {waiter : SessionWaiter}
    (stands : Stands plan isCalling (.awaiting waiter) { time, mark }) :
    mark = .began ∧ waiter.after = 0 ∨ mark = .asked waiter.after := by
  cases stands with
  | begin first => exact .inl ⟨rfl, first⟩
  | resume after => exact .inr (congrArg Mark.asked after.symm)
  | leave ending => cases ending

end Stands

namespace IsInOrder

variable {plan : Plan} {diary : Diary} {front back : List Entry} {entry : Entry}
  {time generation : Nat}

/-- A failed call is handled at once, and a failed stream once its workers have ended. -/
theorem failed_of_failure (inOrder : diary.IsInOrder plan)
    (split : diary.entries = front ++ entry :: back)
    (failure : entry.mark.failure? = some generation) :
    (∃ since rest, entry.time ≤ since ∧
        back = { time := since, mark := .failed generation } :: rest) ∨
      back = [] ∧ ∃ reason, diary.run.point.exit? = some (generation, .failed reason) := by
  obtain ⟨time, mark⟩ := entry
  rcases inOrder.follows_or_stands split with ⟨⟨since, next⟩, rest, rfl, follows⟩ | ⟨rfl, stands⟩
  · have leads : mark.Leads plan next := follows.leads
    cases leads with
    | refused | late | fail =>
        cases failure
        exact .inl ⟨since, rest, follows.ordered, rfl⟩
    | first | again | limit | subscribe | returned | cutOff | abandoned | leave | ask =>
        cases failure
    | finish mayEnd => cases (Mark.mayEnd_of_failure? failure).symm.trans mayEnd
  · exact .inr ⟨rfl, stands.of_failure failure⟩

/-- Nothing comes after the end. -/
theorem finished_last {result : Except ClientError Unit} (inOrder : diary.IsInOrder plan)
    (split : diary.entries = front ++ { time, mark := .finished result } :: back) :
    back = [] ∧ diary.run.cells.isShutDown = true := by
  rcases inOrder.follows_or_stands split with ⟨⟨since, next⟩, rest, rfl, follows⟩ | ⟨rfl, stands⟩
  · have leads : (Mark.finished result).Leads plan next := follows.leads
    cases leads with
    | finish mayEnd => cases mayEnd
  · refine ⟨rfl, inOrder.heard ?_⟩
    rw [stands.of_finished]
    rfl

/-- After a pause of the full length the consumer asks for a new session, unless it is shut
down before. -/
theorem asked_of_failed (inOrder : diary.IsInOrder plan)
    (split : diary.entries = front ++ { time, mark := .failed generation } :: back) :
    (∃ late rest, time + plan.settings.resubscribeDelay ≤ late ∧
        back = { time := late, mark := .asked generation } :: rest) ∨
      (∃ late, back = [{ time := late, mark := .finished (.ok ()) }] ∧
        diary.run.cells.isShutDown = true) ∨
      back = [] ∧
        diary.run.point = .pausing generation (time + plan.settings.resubscribeDelay) := by
  rcases inOrder.follows_or_stands split with ⟨⟨late, next⟩, rest, rfl, follows⟩ | ⟨rfl, stands⟩
  · have leads : (Mark.failed generation).Leads plan next := follows.leads
    cases leads with
    | ask => exact .inl ⟨late, rest, follows.waited generation rfl, rfl⟩
    | finish =>
        rw [List.append_cons] at split
        obtain ⟨rfl, isShutDown⟩ := inOrder.finished_last split
        exact .inr (.inl ⟨late, rfl, isShutDown⟩)
  · exact .inr (.inr ⟨rfl, stands.of_failed⟩)

private theorem failed_of_asked (inOrder : diary.IsInOrder plan)
    (split : diary.entries = front ++ { time, mark := .asked generation } :: back) :
    ∃ earlier since, since + plan.settings.resubscribeDelay ≤ time ∧
      front = earlier ++ [{ time := since, mark := .failed generation }] := by
  rcases inOrder.begins_or_follows split with ⟨-, wrong⟩ | ⟨earlier, ⟨since, mark⟩, rfl, follows⟩
  · cases wrong
  have leads : mark.Leads plan (.asked generation) := follows.leads
  cases leads with
  | ask => exact ⟨earlier, since, follows.waited generation rfl, rfl⟩

/-- A session is the first one, or newer than one that the supervisor was asked to replace. -/
theorem asked_of_took {session : Session} (inOrder : diary.IsInOrder plan)
    (split : diary.entries = front ++ { time, mark := .took session } :: back) :
    (∃ begun, 0 < session.generation ∧ front = [{ time := begun, mark := .began }]) ∨
      ∃ earlier since generation, generation < session.generation ∧
        front = earlier ++ [{ time := since, mark := .asked generation }] := by
  rcases inOrder.begins_or_follows split with ⟨-, wrong⟩ | ⟨earlier, ⟨since, mark⟩, rfl, follows⟩
  · cases wrong
  have leads : mark.Leads plan (.took session) := follows.leads
  cases leads with
  | again newer => exact .inr ⟨earlier, since, _, newer, rfl⟩
  | first newer =>
      rw [List.append_assoc] at split
      rcases inOrder.begins_or_follows split with ⟨rfl, -⟩ | ⟨_, ⟨_, other⟩, -, follows⟩
      · exact .inl ⟨since, newer, rfl⟩
      · have leads : other.Leads plan .began := follows.leads
        cases leads

/-- While a consumer waits for a session, it has asked for it, or has just begun. -/
theorem asked_of_awaiting {waiter : SessionWaiter} (inOrder : diary.IsInOrder plan)
    (awaits : diary.run.point = .awaiting waiter) :
    ∃ front time, (diary.entries = front ++ [{ time, mark := .began }] ∧ waiter.after = 0) ∨
      diary.entries = front ++ [{ time, mark := .asked waiter.after }] := by
  rcases inOrder.place with ⟨-, entry⟩ | ⟨front, last, split, -, stands⟩
  · cases awaits.symm.trans entry
  · obtain ⟨time, mark⟩ := last
    rw [awaits] at stands
    rcases stands.of_awaiting with ⟨rfl, first⟩ | rfl
    · exact ⟨front, time, .inl ⟨split, first⟩⟩
    · exact ⟨front, time, .inr split⟩

/-- A pause that has reached its limit ends with the request. -/
theorem asks_of_pausing {deadline : Nat} (inOrder : diary.IsInOrder plan)
    (pauses : diary.run.point = .pausing generation deadline) (late : deadline ≤ diary.run.now) :
    Occurs plan diary.run .expired ∧
      (diary.meet plan .expired).entries =
        diary.entries ++ [{ time := diary.run.now, mark := .asked generation }] ∧
      (diary.meet plan .expired).run.cells = diary.run.cells.requestReconnect generation := by
  have idle : diary.run.isCalling = false := by
    rcases inOrder.place with ⟨-, entry⟩ | ⟨-, last, -, -, stands⟩
    · cases pauses.symm.trans entry
    · rw [pauses] at stands
      generalize diary.run.isCalling = isCalling at stands ⊢
      cases stands with
      | pause => rfl
      | leave ending => cases ending
  refine ⟨.expire ?_ ?_ (pauses ▸ rfl) late, ?_, ?_⟩
  · rw [Run.IsWaiting, idle, pauses]
    rfl
  · rw [pauses]
    exact .inr rfl
  · have next : (diary.next plan .expired).point = .awaiting { after := generation } := by
      simp [Diary.next, Run.consumption, react, pauses]
    simp [Diary.meet, Diary.note, next, pauses, idle, Point.marks, Point.endMarks, Point.request?,
      Point.arrivalMarks]
  · change (react plan _ _ _ _ .expired).cells = _
    rw [cells_react, Run.consumption, pauses]
    rfl

end IsInOrder

/-! ## Persistence -/

/-- What the diary of a consumer who never gives up shows. -/
structure Persists (plan : Plan) (diary : Diary) : Prop where
  result : ∀ result, diary.run.point = .finished result →
    result = .ok () ∧ diary.run.cells.isShutDown = true
  /-- Every failure is handled: that of a call at once, that of a stream when its workers
  have ended. -/
  handled : ∀ front back entry generation, diary.entries = front ++ entry :: back →
    entry.mark.failure? = some generation →
      (∃ since rest, entry.time ≤ since ∧
          back = { time := since, mark := .failed generation } :: rest) ∨
        back = [] ∧ ∃ reason, diary.run.point.exit? = some (generation, .failed reason)
  /-- What follows is the request, after the whole delay, or else a shutdown. -/
  resumed : ∀ front back since generation,
    diary.entries = front ++ { time := since, mark := .failed generation } :: back →
      (∃ time rest, since + plan.settings.resubscribeDelay ≤ time ∧
          back = { time, mark := .asked generation } :: rest) ∨
        (∃ time, back = [{ time, mark := .finished (.ok ()) }] ∧
          diary.run.cells.isShutDown = true) ∨
        back = [] ∧
          diary.run.point = .pausing generation (since + plan.settings.resubscribeDelay)
  /-- Only newer sessions are used from then on. -/
  newer : ∀ front back since generation,
    diary.entries = front ++ { time := since, mark := .failed generation } :: back →
      ∀ entry ∈ back, ∀ session, entry.mark.session? = some session →
        generation < session.generation
  /-- A request follows a failure of its generation, and is not made again. -/
  asked : ∀ front back time generation,
    diary.entries = front ++ { time, mark := .asked generation } :: back →
      (∃ earlier since, since + plan.settings.resubscribeDelay ≤ time ∧
          front = earlier ++ [{ time := since, mark := .failed generation }]) ∧
        ∀ entry ∈ front ++ back, entry.mark ≠ .asked generation
  /-- No session is taken without a request, but for the first. -/
  taken : ∀ front back time session,
    diary.entries = front ++ { time, mark := .took session } :: back →
      (∃ begun, 0 < session.generation ∧ front = [{ time := begun, mark := .began }]) ∨
        ∃ earlier since generation, generation < session.generation ∧
          front = earlier ++ [{ time := since, mark := .asked generation }]
  /-- Nor is one waited for. -/
  waits : ∀ waiter, diary.run.point = .awaiting waiter →
    ∃ front time, (diary.entries = front ++ [{ time, mark := .began }] ∧ waiter.after = 0) ∨
      diary.entries = front ++ [{ time, mark := .asked waiter.after }]
  /-- The request does not fail to come once it is due. -/
  due : ∀ generation deadline, diary.run.point = .pausing generation deadline →
    deadline ≤ diary.run.now → diary.run.isDropped = false →
      Step plan diary (diary.meet plan .expired) ∧
        (diary.meet plan .expired).entries =
          diary.entries ++ [{ time := diary.run.now, mark := .asked generation }] ∧
        (diary.meet plan .expired).run.cells = diary.run.cells.requestReconnect generation

theorem persists_of_steps (plan : Plan) {diary : Diary} (steps : Steps plan {} diary) :
    diary.Persists plan := by
  have inOrder := isInOrder_of_steps steps
  refine ⟨fun result finished => ?_, fun _ _ _ _ => inOrder.failed_of_failure,
    fun _ _ _ _ => inOrder.asked_of_failed, fun front back since generation split => ?_,
    fun front back time generation split => ?_, fun _ _ _ _ => inOrder.asked_of_took,
    fun _ => inOrder.asked_of_awaiting, fun generation deadline pauses late kept => ?_⟩
  · refine ⟨?_, inOrder.heard (by rw [finished]; rfl)⟩
    rcases inOrder.place with ⟨-, entry⟩ | ⟨-, last, -, -, stands⟩
    · cases finished.symm.trans entry
    · rw [finished] at stands
      exact stands.finished_eq
  · intro entry member session named
    exact Mark.generation_lt ((inOrder.rank_lt_of_split split).2 entry member) named
  · refine ⟨inOrder.failed_of_asked split, fun entry member same => ?_⟩
    obtain ⟨before, behind⟩ := inOrder.rank_lt_of_split split
    rcases List.mem_append.mp member with inFront | inBack
    · have lower := before entry inFront
      rw [same] at lower
      exact lt_irrefl _ lower
    · have higher := behind entry inBack
      rw [same] at higher
      exact lt_irrefl _ higher
  · obtain ⟨occurs, entries, cells⟩ := inOrder.asks_of_pausing pauses late
    exact ⟨.act (.meet kept occurs), entries, cells⟩

section

open Run (pair firstSession)

def sessionReady : Diary :=
  let begun := ({} : Diary).meet pair .begin
  { begun with
    run := { begun.run with cells := { session := some firstSession, sessionVersion := 1 } } }

def limiting : Diary :=
  let taken := sessionReady.meet pair .woken
  { taken with run := taken.run.turn }.makeCall firstSession (.qos 1 50)

/-- The first channel has refused its limit, and the pause is over. -/
def pauseOver : Diary :=
  let refused := limiting.meet pair (.replied (.error (.qos "refused")))
  { refused with run := { refused.run with now := 30000 } }

private theorem steps_pauseOver : Steps pair {} pauseOver := by
  have begun : Step pair {} (({} : Diary).meet pair .begin) :=
    .act (.meet rfl (.interrupt rfl rfl))
  have ready : Step pair (({} : Diary).meet pair .begin) sessionReady :=
    .around _ { connection := fun _ => {}, channel := fun _ => {} } 0 id
  have woken : Step pair sessionReady (sessionReady.meet pair .woken) :=
    .act (.meet rfl (.interrupt rfl rfl))
  have limits : Steps pair {} limiting :=
    ((((Relation.ReflTransGen.single begun).tail ready).tail woken).tail
      (.act (.rest (.overlook rfl rfl rfl)))).tail (.act (.call rfl rfl rfl rfl rfl))
  have refused : Step pair limiting (limiting.meet pair (.replied (.error (.qos "refused")))) :=
    .act (.meet rfl (.reply rfl rfl rfl nofun))
  exact (limits.tail refused).tail
    (.around _ { connection := fun _ => {}, channel := fun _ => {} } 30000 id)

theorem persists_of_steps_asked :
    Steps pair {} (pauseOver.meet pair .expired) ∧
      (pauseOver.meet pair .expired).marks =
        [.began, .took firstSession, .called firstSession (.qos 1 50),
          .returned firstSession (.qos 1 50) (.error (.qos "refused")), .failed 1, .asked 1] ∧
      (pauseOver.meet pair .expired).run.cells.requested = 1 ∧
      (pauseOver.meet pair .expired).Persists pair := by
  have steps : Steps pair {} (pauseOver.meet pair .expired) :=
    steps_pauseOver.tail (.act (.meet rfl (.expire rfl (.inr rfl) rfl (Nat.le_refl 30000))))
  exact ⟨steps, rfl, rfl, persists_of_steps pair steps⟩

end

end AmqpClient.Consumer.Diary
