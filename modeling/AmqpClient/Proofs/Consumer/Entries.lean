import AmqpClient.Proofs.Consumer.Diary
import Mathlib.Data.List.Chain
import Mathlib.Data.List.Induction
import Mathlib.Order.WithBot

/-!
# The entries of a diary

Every entry follows from the one before, and the last one tells where the consumer stands.
So what a consumer has done comes in the order of the generations, and nothing is done
twice.
-/

set_option autoImplicit false

namespace AmqpClient.Consumer.Diary

/-! ## One entry after another -/

/-- Whether a consumer may end with nothing in between. -/
def Mark.mayEnd : Mark → Bool
  | .began | .took _ | .abandoned .. | .left _ .shutdown | .failed _ | .asked _ => true
  | .returned _ call (.ok _) => isLimit call
  | .returned _ _ (.error _) | .called .. | .cutOff .. | .left _ (.failed _) | .finished _ => false

inductive Mark.Leads (plan : Plan) : Mark → Mark → Prop where
  | first {session : Session} : 0 < session.generation → Leads plan .began (.took session)
  | again {generation : Nat} {session : Session} :
      generation < session.generation → Leads plan (.asked generation) (.took session)
  | limit {session : Session} :
      Leads plan (.took session)
        (.called session (.qos session.channel plan.settings.prefetch))
  | subscribe {session : Session} {answer : Answer} :
      Leads plan (.returned session (.qos session.channel plan.settings.prefetch) (.ok answer))
        (.called session (.consume session.channel plan.queue plan.settings.consumerTag))
  | returned {session : Session} {call : Call} {reply : Reply} :
      Leads plan (.called session call) (.returned session call reply)
  | cutOff {session : Session} {call : Call} :
      Leads plan (.called session call) (.cutOff session call)
  | abandoned {session : Session} {call : Call} :
      Leads plan (.called session call) (.abandoned session call)
  | refused {session : Session} {call : Call} {error : ClientError} :
      Leads plan (.returned session call (.error error)) (.failed session.generation)
  | late {session : Session} {call : Call} :
      Leads plan (.cutOff session call) (.failed session.generation)
  | leave {session : Session} {answer : Answer} {exit : StreamExit} :
      Leads plan
        (.returned session (.consume session.channel plan.queue plan.settings.consumerTag)
          (.ok answer))
        (.left session.generation exit)
  | fail {generation : Nat} {reason : String} :
      Leads plan (.left generation (.failed reason)) (.failed generation)
  | ask {generation : Nat} : Leads plan (.failed generation) (.asked generation)
  | finish {mark : Mark} : mark.mayEnd = true → Leads plan mark (.finished (.ok ()))

structure Follows (plan : Plan) (early late : Entry) : Prop where
  leads : early.mark.Leads plan late.mark
  ordered : early.time ≤ late.time
  waited : ∀ generation, late.mark = .asked generation →
    early.time + plan.settings.resubscribeDelay ≤ late.time

/-- Where a consumer stands after an entry. -/
inductive Stands (plan : Plan) : Bool → Point → Entry → Prop where
  | begin {isCalling : Bool} {waiter : SessionWaiter} {time : Nat} :
      waiter.after = 0 → Stands plan isCalling (.awaiting waiter) { time, mark := .began }
  | resume {isCalling : Bool} {waiter : SessionWaiter} {time generation : Nat} :
      waiter.after = generation →
      Stands plan isCalling (.awaiting waiter) { time, mark := .asked generation }
  | limit {session : Session} {deadline time : Nat} :
      Stands plan false (.limiting session deadline) { time, mark := .took session }
  | limiting {session : Session} {deadline time : Nat} :
      Stands plan true (.limiting session deadline)
        { time, mark := .called session (.qos session.channel plan.settings.prefetch) }
  | subscribe {session : Session} {deadline time : Nat} {answer : Answer} :
      Stands plan false (.subscribing session deadline)
        { time
          mark := .returned session (.qos session.channel plan.settings.prefetch) (.ok answer) }
  | subscribing {session : Session} {deadline time : Nat} :
      Stands plan true (.subscribing session deadline)
        { time
          mark :=
            .called session
              (.consume session.channel plan.queue plan.settings.consumerTag) }
  | stream {isCalling : Bool} {session : Session} {time : Nat} {answer : Answer} :
      Stands plan isCalling (.streaming session)
        { time
          mark :=
            .returned session
              (.consume session.channel plan.queue plan.settings.consumerTag) (.ok answer) }
  | leave {isCalling : Bool} {point : Point} {time generation : Nat} {exit : StreamExit} :
      point.exit? = some (generation, exit) →
      Stands plan isCalling point { time, mark := .left generation exit }
  | pause {time generation : Nat} :
      Stands plan false (.pausing generation (time + plan.settings.resubscribeDelay))
        { time, mark := .failed generation }
  | finish {isCalling : Bool} {time : Nat} :
      Stands plan isCalling (.finished (.ok ())) { time, mark := .finished (.ok ()) }

/-- Entries made at one time. -/
def entriesAt (time : Nat) (marks : List Mark) : List Entry :=
  marks.map ({ time, mark := · })

/-- New entries follow from the last one, and tell where the consumer stands. -/
structure Continues (plan : Plan) (now : Nat) (isCalling : Bool) (point : Point) (last : Entry)
    (marks : List Mark) : Prop where
  ordered : (last :: entriesAt now marks).IsChain (Follows plan)
  place : ∃ front latest, last :: entriesAt now marks = front ++ [latest] ∧ latest.time ≤ now ∧
    Stands plan isCalling point latest

section

variable {plan : Plan} {cells : SupervisorCells} {now : Nat} {isCalling : Bool}
  {point next : Point} {last : Entry} {marks : List Mark}

theorem Continues.none (early : last.time ≤ now) (stands : Stands plan isCalling point last) :
    Continues plan now isCalling point last [] where
  ordered := .singleton last
  place := ⟨[], last, rfl, early, stands⟩

theorem Continues.cons {mark : Mark} {marks : List Mark} (early : last.time ≤ now)
    (leads : last.mark.Leads plan mark)
    (waited : ∀ generation, mark = .asked generation →
      last.time + plan.settings.resubscribeDelay ≤ now)
    (rest : Continues plan now isCalling point { time := now, mark } marks) :
    Continues plan now isCalling point last (mark :: marks) where
  ordered := .cons_cons ⟨leads, early, waited⟩ rest.ordered
  place := by
    obtain ⟨front, latest, split, known, stands⟩ := rest.place
    exact ⟨last :: front, latest, congrArg (last :: ·) split, known, stands⟩

/-- One more entry, which is no request. -/
theorem Continues.one {mark : Mark} (early : last.time ≤ now)
    (leads : last.mark.Leads plan mark) (quiet : ∀ generation, mark ≠ .asked generation)
    (stands : Stands plan isCalling point { time := now, mark }) :
    Continues plan now isCalling point last [mark] :=
  .cons early leads (fun generation same => absurd same (quiet generation))
    (.none (Nat.le_refl now) stands)

private theorem Passes.of_entry (passes : Passes plan cells now isCalling .entry next marks) :
    next = .awaiting { after := 0 } ∧ marks = [.began] := by
  cases passes with
  | begin => exact ⟨rfl, rfl⟩
  | refused due | late due | abandon due => cases due
  | fail ending | close ending => cases ending
  | stop heeds => cases heeds

theorem Stands.called {session : Session} {call : Call}
    (stands : Stands plan true point last) (due : point.session? = some session)
    (named : point.call? plan = some call) : last.mark = .called session call := by
  cases stands with
  | limiting | subscribing =>
      cases due
      cases named
      rfl
  | begin | resume | stream | finish => cases due
  | leave ending =>
      cases point with
      | draining | aborting => cases due
      | entry | awaiting | limiting | subscribing | streaming | pausing | finished => cases ending

theorem Stands.left {generation : Nat} {exit : StreamExit}
    (stands : Stands plan isCalling point last) (ending : point.exit? = some (generation, exit)) :
    last.mark = .left generation exit := by
  cases stands with
  | leave same =>
      cases ending.symm.trans same
      rfl
  | begin | resume | limit | limiting | subscribe | subscribing | stream | pause | finish =>
      cases ending

theorem Stands.mayEnd (stands : Stands plan isCalling point last)
    (heeds : point.heeds isCalling = true) : last.mark.mayEnd = true := by
  cases stands with
  | begin | resume | limit | subscribe | pause => rfl
  | limiting | subscribing | stream | finish => cases heeds
  | leave ending =>
      cases point with
      | draining | aborting => cases heeds
      | entry | awaiting | limiting | subscribing | streaming | pausing | finished => cases ending

theorem Stands.continues (stands : Stands plan isCalling point last) (early : last.time ≤ now)
    (passes : Passes plan cells now isCalling point next marks) :
    Continues plan now false next last marks := by
  cases passes with
  | begin =>
      cases stands with
      | leave ending => cases ending
  | wait same =>
      cases stands with
      | begin first => exact .none early (.begin (same.trans first))
      | resume after => exact .none early (.resume (same.trans after))
      | leave ending => cases ending
  | take newer =>
      cases stands with
      | begin first => exact .one early (.first (first ▸ newer)) nofun .limit
      | resume after => exact .one early (.again (after ▸ newer)) nofun .limit
      | leave ending => cases ending
  | limited =>
      cases stands with
      | limiting => exact .one early .returned nofun .subscribe
      | leave ending => cases ending
  | subscribed =>
      cases stands with
      | subscribing => exact .one early .returned nofun .stream
      | leave ending => cases ending
  | refused due named =>
      have called := stands.called due named
      refine .cons early (called ▸ .returned) nofun ?_
      exact .one (Nat.le_refl now) .refused nofun .pause
  | late due named =>
      have called := stands.called due named
      refine .cons early (called ▸ .cutOff) nofun ?_
      exact .one (Nat.le_refl now) .late nofun .pause
  | abandon due named =>
      have called := stands.called due named
      refine .cons early (called ▸ .abandoned) nofun ?_
      exact .one (Nat.le_refl now) (.finish rfl) nofun .finish
  | drain =>
      cases stands with
      | stream => exact .one early .leave nofun (.leave rfl)
      | leave ending => cases ending
  | report | abort =>
      cases stands with
      | leave ending => exact .none early (.leave ending)
  | fail ending =>
      have left := stands.left ending
      exact .one early (left ▸ .fail) nofun .pause
  | close ending =>
      have left := stands.left ending
      refine .one early (.finish ?_) nofun .finish
      rw [left]
      rfl
  | ask due =>
      cases stands with
      | pause =>
          refine .cons early .ask (fun _ _ => due) ?_
          exact .none (Nat.le_refl now) (.resume rfl)
      | leave ending => cases ending
  | stop heeds => exact .one early (.finish (stands.mayEnd heeds)) nofun .finish

theorem Stands.call {session : Session} {call : Call} (stands : Stands plan false point last)
    (early : last.time ≤ now) (due : point.session? = some session)
    (named : point.call? plan = some call) :
    Continues plan now true point last [.called session call] := by
  cases stands with
  | limit =>
      cases due
      cases named
      exact .one early .limit nofun .limiting
  | subscribe =>
      cases due
      cases named
      exact .one early .subscribe nofun .subscribing
  | begin | resume | stream | pause | finish => cases due
  | leave ending =>
      cases point with
      | draining | aborting => cases due
      | entry | awaiting | limiting | subscribing | streaming | pausing | finished => cases ending

theorem Passes.isShutDown (passes : Passes plan cells now isCalling point next marks)
    (heard : point.hasHeard = true → cells.isShutDown = true) (hears : next.hasHeard = true) :
    cells.isShutDown = true := by
  cases passes with
  | begin | wait | take | limited | subscribed | refused | late | fail | ask => cases hears
  | abandon _ _ down | stop _ down => exact down
  | @drain _ _ exit _ down =>
      cases exit with
      | shutdown => exact down rfl
      | failed reason => cases hears
  | report => exact heard hears
  | @abort _ _ _ exit =>
      cases exit with
      | shutdown => exact heard rfl
      | failed reason => cases hears
  | @close _ point _ ending =>
      cases point with
      | draining | aborting =>
          cases ending
          exact heard rfl
      | entry | awaiting | limiting | subscribing | streaming | pausing | finished => cases ending

end

/-! ## Diaries in order -/

structure IsInOrder (plan : Plan) (diary : Diary) : Prop where
  ordered : diary.entries.IsChain (Follows plan)
  /-- Either nothing has happened, or the last entry tells where the consumer stands. -/
  place :
    diary.entries = [] ∧ diary.run.point = .entry ∨
      ∃ front last, diary.entries = front ++ [last] ∧ last.time ≤ diary.run.now ∧
        Stands plan diary.run.isCalling diary.run.point last
  first : ∀ entry rest, diary.entries = entry :: rest → entry.mark = .began
  heard : diary.run.point.hasHeard = true → diary.run.cells.isShutDown = true

section

variable {plan : Plan} {diary after : Diary}

private theorem isInOrder_initial : ({} : Diary).IsInOrder plan where
  ordered := .nil
  place := .inl ⟨rfl, rfl⟩
  first _ _ begins := absurd begins (List.cons_ne_nil _ _).symm
  heard hears := absurd hears Bool.false_ne_true

/-- Where the consumer stands is all that counts of its run. -/
theorem IsInOrder.congr {run : Run} (inOrder : diary.IsInOrder plan)
    (point : run.point = diary.run.point) (isCalling : run.isCalling = diary.run.isCalling)
    (later : diary.run.now ≤ run.now)
    (stays : diary.run.cells.isShutDown = true → run.cells.isShutDown = true) :
    { diary with run }.IsInOrder plan where
  ordered := inOrder.ordered
  place := by
    rw [point, isCalling]
    rcases inOrder.place with fresh | ⟨front, last, split, early, stands⟩
    · exact .inl fresh
    · exact .inr ⟨front, last, split, Nat.le_trans early later, stands⟩
  first := inOrder.first
  heard hears := stays (inOrder.heard (point ▸ hears))

/-- Entries that continue those before keep the diary in order. -/
theorem IsInOrder.note {run : Run} {front : List Entry} {last : Entry} {marks : List Mark}
    (inOrder : diary.IsInOrder plan) (split : diary.entries = front ++ [last])
    (continues : Continues plan diary.run.now run.isCalling run.point last marks)
    (same : run.now = diary.run.now)
    (heard : run.point.hasHeard = true → run.cells.isShutDown = true) :
    { diary.note marks with run }.IsInOrder plan := by
  obtain ⟨rest, latest, ends, known, stands⟩ := continues.place
  have entries : (diary.note marks).entries = front ++ last :: entriesAt diary.run.now marks := by
    simp [Diary.note, entriesAt, split]
  have known : latest.time ≤ run.now := Nat.le_trans known (Nat.le_of_eq same.symm)
  refine ⟨?_, .inr ⟨front ++ rest, latest, ?_, known, stands⟩, ?_, heard⟩
  · change (diary.note marks).entries.IsChain _
    rw [entries]
    exact List.isChain_split.mpr ⟨split ▸ inOrder.ordered, continues.ordered⟩
  · rw [entries, ends, List.append_assoc]
  · intro entry tail begins
    rw [entries] at begins
    cases front with
    | nil =>
        cases begins
        exact inOrder.first last [] split
    | cons oldest front =>
        have same : oldest = entry := (List.cons.inj begins).1
        exact same ▸ inOrder.first oldest _ split

/-- An event that occurs changes the flag of a shutdown neither way. -/
theorem isShutDown_meet (event : Event) :
    (diary.run.meet plan event).cells.isShutDown = diary.run.cells.isShutDown := by
  change (react plan _ _ _ _ event).cells.isShutDown = _
  rw [cells_react]
  cases diary.run.consumption.point.request? event <;> rfl

theorem IsInOrder.meet {event : Event} (inOrder : diary.IsInOrder plan)
    (occurs : Occurs plan diary.run event) : (diary.meet plan event).IsInOrder plan := by
  have passes := passes_of_occurs occurs
  have point : (diary.run.meet plan event).point = (diary.next plan event).point :=
    Run.point_meet
  have heard : (diary.run.meet plan event).point.hasHeard = true →
      (diary.run.meet plan event).cells.isShutDown = true := by
    rw [point, isShutDown_meet]
    exact passes.isShutDown inOrder.heard
  rcases inOrder.place with ⟨nothing, entry⟩ | ⟨front, last, split, early, stands⟩
  · rw [entry] at passes
    obtain ⟨started, marks⟩ := passes.of_entry
    have entries : (diary.meet plan event).entries =
        [{ time := diary.run.now, mark := .began }] := by
      simp [Diary.meet, Diary.note, nothing, entry, marks]
    refine ⟨?_, .inr ⟨[], _, entries, Nat.le_of_eq Run.now_meet.symm, ?_⟩, ?_, heard⟩
    · rw [entries]
      exact .singleton _
    · change Stands plan _ (diary.run.meet plan event).point _
      rw [point, started]
      exact .begin rfl
    · intro first rest begins
      rw [entries] at begins
      cases begins
      rfl
  · have continues := stands.continues early passes
    refine inOrder.note split ?_ Run.now_meet heard
    rw [point]
    exact continues

theorem IsInOrder.makeCall {session : Session} {call : Call} (inOrder : diary.IsInOrder plan)
    (idle : diary.run.isCalling = false) (due : diary.run.point.session? = some session)
    (named : diary.run.point.call? plan = some call) :
    (diary.makeCall session call).IsInOrder plan := by
  rcases inOrder.place with ⟨nothing, entry⟩ | ⟨front, last, split, early, stands⟩
  · rw [entry] at due
    cases due
  · rw [idle] at stands
    refine inOrder.note split ?_ rfl inOrder.heard
    exact stands.call early due named

theorem IsInOrder.step (inOrder : diary.IsInOrder plan) (step : Step plan diary after) :
    after.IsInOrder plan := by
  cases step with
  | around signals elapsed stays =>
      exact inOrder.congr rfl rfl (Nat.le_add_right ..) stays
  | act acts =>
      cases acts with
      | meet _ occurs => exact inOrder.meet occurs
      | call _ idle _ due named => exact inOrder.makeCall idle due named
      | rest rests =>
          cases rests with
          | overlook | poll | drop | act | linger =>
              exact inOrder.congr rfl rfl (Nat.le_refl _) id

theorem isInOrder_of_steps (steps : Steps plan {} diary) : diary.IsInOrder plan := by
  induction steps with
  | refl => exact isInOrder_initial
  | tail _ step inOrder => exact inOrder.step step

/-- The session that a mark is about. -/
def Mark.session? : Mark → Option Session
  | .took session | .called session _ | .returned session _ _ | .cutOff session _
  | .abandoned session _ => some session
  | .began | .left .. | .failed _ | .asked _ | .finished _ => none

/-- A session comes in only by being taken. -/
theorem Mark.Leads.session? {early late : Mark} {session : Session}
    (leads : early.Leads plan late) (named : late.session? = some session) :
    late = .took session ∨ early.session? = some session := by
  cases leads with
  | first | again =>
      cases named
      exact .inl rfl
  | limit | subscribe | returned | cutOff | abandoned => exact .inr named
  | refused | late | leave | fail | ask | finish => cases named

namespace IsInOrder

variable {front back : List Entry} {entry : Entry}

/-- Every entry but the first follows from the one before. -/
theorem begins_or_follows (inOrder : diary.IsInOrder plan)
    (split : diary.entries = front ++ entry :: back) :
    front = [] ∧ entry.mark = .began ∨
      ∃ earlier previous, front = earlier ++ [previous] ∧ Follows plan previous entry := by
  rcases List.eq_nil_or_concat front with rfl | ⟨earlier, previous, rfl⟩
  · exact .inl ⟨rfl, inOrder.first entry back split⟩
  · refine .inr ⟨earlier, previous, List.concat_eq_append, ?_⟩
    rw [List.concat_eq_append, List.append_assoc] at split
    have chain := inOrder.ordered
    rw [split] at chain
    exact (List.isChain_append_cons_cons.mp chain).2.1

/-- Whatever comes after an entry follows from it; if nothing does, it tells where the
consumer stands. -/
theorem follows_or_stands (inOrder : diary.IsInOrder plan)
    (split : diary.entries = front ++ entry :: back) :
    (∃ next rest, back = next :: rest ∧ Follows plan entry next) ∨
      back = [] ∧ Stands plan diary.run.isCalling diary.run.point entry := by
  cases back with
  | cons next rest =>
      have chain := inOrder.ordered
      rw [split] at chain
      exact .inl ⟨next, rest, rfl, (List.isChain_append_cons_cons.mp chain).2.1⟩
  | nil =>
      rcases inOrder.place with ⟨nothing, -⟩ | ⟨before, last, ends, -, stands⟩
      · rw [nothing] at split
        cases front <;> cases split
      · obtain ⟨-, same⟩ := List.append_inj' (split.symm.trans ends) rfl
        cases same
        exact .inr ⟨rfl, stands⟩

/-- Whatever session is spoken of was taken. -/
theorem exists_took (inOrder : diary.IsInOrder plan) {session : Session}
    (split : diary.entries = front ++ entry :: back)
    (named : entry.mark.session? = some session) :
    ∃ time, { time, mark := .took session } ∈ diary.entries := by
  induction front using List.reverseRecOn generalizing entry back with
  | nil =>
      have began := inOrder.first entry back split
      rw [began] at named
      cases named
  | append_singleton earlier previous ih =>
      obtain ⟨time, mark⟩ := entry
      rcases inOrder.begins_or_follows split with ⟨-, began⟩ | ⟨before, last, ends, follows⟩
      · cases began
        cases named
      · obtain ⟨-, same⟩ := List.append_inj' ends rfl
        cases same
        rcases follows.leads.session? named with rfl | earlierNamed
        · exact ⟨time, by simp [split]⟩
        · exact ih (by rw [split, List.append_assoc]; rfl) earlierNamed

end IsInOrder

end

/-! ## Entries come in the order of the generations -/

namespace Mark

/-- The limit of a channel is set before it is subscribed to. -/
def callRank (session : Session) (call : Call) : Nat :=
  8 * session.generation + if isLimit call then 2 else 4

/-- The place of a mark among all marks of a consumer. Nothing comes after its end. -/
def rank : Mark → WithTop Nat
  | .began => .some 0
  | .took session => .some (8 * session.generation + 1)
  | .called session call => .some (callRank session call)
  | .returned session call _ | .cutOff session call | .abandoned session call =>
    .some (callRank session call + 1)
  | .left generation _ => .some (8 * generation + 6)
  | .failed generation => .some (8 * generation + 7)
  | .asked generation => .some (8 * generation + 8)
  | .finished _ => ⊤

variable {plan : Plan} {early late : Mark}

private theorem callRank_le (session : Session) (call : Call) :
    callRank session call ≤ 8 * session.generation + 4 := by
  unfold callRank
  split <;> omega

private theorem Leads.rank_lt (leads : early.Leads plan late) : early.rank < late.rank := by
  cases leads with
  | finish mayEnd =>
      cases early with
      | finished => cases mayEnd
      | began | took | called | returned | cutOff | abandoned | left | failed | asked =>
          exact WithTop.coe_lt_top _
  | first newer | again newer =>
      refine WithTop.coe_lt_coe.mpr ?_
      omega
  | limit | subscribe | leave =>
      refine WithTop.coe_lt_coe.mpr ?_
      simp [callRank, isLimit]
  | returned | cutOff | abandoned => exact WithTop.coe_lt_coe.mpr (Nat.lt_succ_self _)
  | @refused session call | @late session call =>
      have few := callRank_le session call
      refine WithTop.coe_lt_coe.mpr ?_
      omega
  | fail | ask => exact WithTop.coe_lt_coe.mpr (Nat.lt_succ_self _)

/-- Marks of a session come after all that is of an earlier generation. -/
theorem generation_lt {generation : Nat} {session : Session} {mark : Mark}
    (later : .some (8 * generation + 7) < mark.rank)
    (named : mark.session? = some session) : generation < session.generation := by
  have few (call : Call) := callRank_le session call
  cases mark with
  | took =>
      cases named
      have later := WithTop.coe_lt_coe.mp later
      omega
  | called other call | returned other call | cutOff other call | abandoned other call =>
      cases named
      have later := WithTop.coe_lt_coe.mp later
      have few := few call
      omega
  | began | left | failed | asked | finished => cases named

end Mark

section

variable {plan : Plan} {diary : Diary} {front back : List Entry} {entry other : Entry}

private theorem IsInOrder.ranks (inOrder : diary.IsInOrder plan) :
    (diary.entries.map fun entry => entry.mark.rank).Pairwise (· < ·) := by
  refine List.isChain_iff_pairwise.mp ((List.isChain_map _).mpr ?_)
  exact inOrder.ordered.imp fun _ _ follows => follows.leads.rank_lt

/-- Whatever comes later is of a higher rank. -/
theorem IsInOrder.rank_lt_of_split (inOrder : diary.IsInOrder plan)
    (split : diary.entries = front ++ entry :: back) :
    (∀ other ∈ front, other.mark.rank < entry.mark.rank) ∧
      ∀ other ∈ back, entry.mark.rank < other.mark.rank := by
  have ranks := inOrder.ranks
  rw [split, List.map_append, List.map_cons] at ranks
  obtain ⟨-, behind, before⟩ := List.pairwise_append.mp ranks
  refine ⟨fun other member => ?_, fun other member => ?_⟩
  · exact before _ (List.mem_map_of_mem member) _ List.mem_cons_self
  · exact (List.pairwise_cons.mp behind).1 _ (List.mem_map_of_mem member)

/-- No two entries have one rank. -/
theorem IsInOrder.eq_of_rank_eq (inOrder : diary.IsInOrder plan) (told : entry ∈ diary.entries)
    (toldToo : other ∈ diary.entries) (same : entry.mark.rank = other.mark.rank) :
    entry = other := by
  obtain ⟨front, back, split⟩ := List.append_of_mem told
  obtain ⟨before, behind⟩ := inOrder.rank_lt_of_split split
  rw [split] at toldToo
  rcases List.mem_append.mp toldToo with inFront | rest
  · exact absurd same.symm (before other inFront).ne
  · rcases List.mem_cons.mp rest with rfl | inBack
    · rfl
    · exact absurd same (behind other inBack).ne

end

end AmqpClient.Consumer.Diary
