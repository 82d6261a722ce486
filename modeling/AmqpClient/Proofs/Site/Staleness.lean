import AmqpClient.Proofs.Site.Basic
import AmqpClient.Proofs.Supervisor.Release

/-!
# Writing on a session's channel

A caller keeps the session that it has found while it waits for the slot. The channel it
writes on then is of the newest session that was stored exactly if none was stored while
it waited.
-/

set_option autoImplicit false

namespace AmqpClient

namespace Supervisor

private theorem Entry.wrote_of_stores {entry : Entry} (stores : entry.stores = true) :
    ∃ session, entry.mark = .wrote (some session) := by
  unfold Entry.stores Mark.stores at stores
  split at stores
  · next session wrote => exact ⟨session, wrote⟩
  · cases stores

/-- No session of a later generation was stored so far. -/
def Run.IsNewest (run : Run) (session : Session) : Prop :=
  ∀ time stored, { time, mark := .wrote (some stored) } ∈ run.history →
    stored.generation ≤ session.generation

variable {plan : Plan} {run later : Run} {session : Session}

theorem session_of_readySession (found : run.cells.readySession run.signals = .ok session) :
    run.cells.session = some session := by
  unfold SupervisorCells.readySession at found
  split at found
  · cases found
  · split at found
    · next current =>
      cases found
      exact (Option.filter_eq_some_iff.mp current).1
    · cases found

private theorem countP_stores (reached : Reachable plan run)
    (current : run.cells.session = some session) :
    run.history.countP Entry.stores = session.generation := by
  obtain ⟨ledger, reads, agrees⟩ := Run.isKept_of_reachable reached
  have counted := (Run.isCoherent_of_reachable reached).counted session current
  rw [counted, ← agrees.stored, reads.stored_eq]
  exact (Nat.zero_add _).symm

/-- A session that was current is still the newest exactly if none was stored since. -/
theorem isNewest_iff {since : List Entry} (reached : Reachable plan run)
    (current : run.cells.session = some session) (taken : Steps plan run later)
    (told : later.history = run.history ++ since) :
    later.IsNewest session ↔ ∀ entry ∈ since, entry.stores = false := by
  have come := reached.trans taken
  have stored := countP_stores reached current
  constructor
  · intro newest entry member
    by_contra stores
    obtain ⟨other, wrote⟩ := Entry.wrote_of_stores (Bool.not_eq_false _ ▸ stores)
    obtain ⟨time, mark⟩ := entry
    cases wrote
    obtain ⟨early, late, rfl⟩ := List.append_of_mem member
    have split : later.history =
        (run.history ++ early) ++ { time, mark := .wrote (some other) } :: late := by simp [told]
    have generation := generation_of_wrote come split
    have older := newest time other (by simp [told])
    rw [List.countP_append, stored] at generation
    omega
  · intro quiet time other member
    obtain ⟨early, late, split⟩ := List.append_of_mem member
    have generation := generation_of_wrote come split
    have none : since.countP Entry.stores = 0 :=
      List.countP_eq_zero.mpr fun entry member => by simp [quiet entry member]
    have whole : later.history.countP Entry.stores = session.generation := by
      rw [told, List.countP_append, none, stored, Nat.add_zero]
    have one : ({ time, mark := .wrote (some other) } : Entry).stores = true := rfl
    rw [split, List.countP_append, List.countP_cons_of_pos one] at whole
    omega

end Supervisor

namespace Site

open Supervisor

variable {plan : Plan} {desk : Publisher.Desk} {site before after : Site} {ticket : Nat}
  {session : Session}

def Waits (ticket : Nat) (session : Session) (site : Site) : Prop :=
  ∃ caller, site.callers ticket = some caller ∧ caller.errand.waiting? = some session

def StepWaiting (plan : Plan) (desk : Publisher.Desk) (ticket : Nat) (session : Session)
    (site after : Site) : Prop :=
  Step (Supervisor.Step plan) desk site after ∧ site.Waits ticket session

/-- The caller has found the session ready, and has waited for its slot ever since. -/
structure HasWaited (plan : Plan) (desk : Publisher.Desk) (ticket : Nat) (session : Session)
    (taken site : Site) : Prop where
  reached : Reachable (Supervisor.Step plan) desk taken
  found : taken.run.cells.readySession taken.run.signals = .ok session
  waited : Relation.ReflTransGen (StepWaiting plan desk ticket session) taken site
  waits : site.Waits ticket session

private theorem exists_hasWaited (reached : Reachable (Supervisor.Step plan) desk site)
    (waits : site.Waits ticket session) :
    ∃ taken, HasWaited plan desk ticket session taken site := by
  induction reached with
  | refl =>
      obtain ⟨caller, present, -⟩ := waits
      cases present
  | @tail former site reached step ih =>
      have goesOn (waited : former.Waits ticket session) :
          ∃ taken, HasWaited plan desk ticket session taken site := by
        obtain ⟨taken, earlier⟩ := ih waited
        exact ⟨taken, earlier.reached, earlier.found, earlier.waited.tail ⟨step, waited⟩, waits⟩
      obtain ⟨caller, present, waiting⟩ := waits
      have whole := reached.tail step
      cases step with
      | supervise work => exact goesOn ⟨caller, present, waiting⟩
      | attend step signals cells now =>
          rcases Publisher.Crowd.found_or_waited step present waiting with found | waited
          · exact ⟨_, whole, found, .refl, caller, present, waiting⟩
          · exact goesOn waited

theorem HasWaited.steps {taken : Site} (waited : HasWaited plan desk ticket session taken site) :
    Steps (Supervisor.Step plan) desk taken site :=
  Relation.ReflTransGen.mono (fun _ _ => And.left) _ _ waited.waited

/-- A caller writes on the channel of the session that it has found once. No later session
was stored before the write exactly if none was stored while it waited for the slot. -/
theorem publishes_on_newest_iff (reached : Reachable (Supervisor.Step plan) desk before)
    (step : Step (Supervisor.Step plan) desk before after)
    (publishes : before.crowd.Publishes after.crowd ticket session) :
    ∃ taken since, HasWaited plan desk ticket session taken before ∧
      before.run.history = taken.run.history ++ since ∧
      (before.run.IsNewest session ↔ ∀ entry ∈ since, entry.stores = false) := by
  have waits : before.Waits ticket session := by
    cases step with
    | supervise work =>
        obtain ⟨unwritten, caller, present, writes⟩ := publishes
        cases (unwritten caller present).symm.trans writes
    | attend step signals cells now =>
        rw [crowd_attended signals cells now] at publishes
        exact (Publisher.Crowd.waited_of_publishes step publishes).2.2
  obtain ⟨taken, waited⟩ := exists_hasWaited reached waits
  obtain ⟨since, told⟩ := Supervisor.Steps.history_prefix waited.steps.run
  exact ⟨taken, since, waited, told.symm, isNewest_iff waited.reached.run
    (session_of_readySession waited.found) waited.steps.run told.symm⟩

end Site

/-! ## A session that is replaced while a caller waits -/

namespace Supervisor

/-- The channel of the first session has ended, and a second session has taken its place. -/
def oneProducerReplaced : Run :=
  let lost : Run := { oneProducerReady with signals := oneQueueLost.signals, looks := true }
  let left := lost.meet oneProducer (.channelClosed "gone")
  let closed := left.receive oneProducer (.ok .done)
  let opened := (closed.turn.makeCall oneProducer).receive oneProducer (.ok (.channel 1))
  (opened.receive oneProducer (.ok (.found true))).receive oneProducer (.ok .done)

private theorem steps_oneProducerReplaced :
    Steps oneProducer oneProducerReady oneProducerReplaced := by
  have lost : Steps oneProducer oneProducerReady
      { oneProducerReady with signals := oneQueueLost.signals } := .single (.signal _ _)
  have left := (lost.tail (.poll rfl)).tail (.look (by decide) rfl rfl)
  have closed := left.tail (.answered .done rfl rfl rfl rfl)
  have opening := (closed.tail (.overlook rfl rfl)).tail (.call rfl rfl)
  have opened := opening.tail (.answered (.channel 1) rfl rfl rfl rfl)
  have installed := opened.tail (.answered (.found true) rfl rfl rfl rfl)
  exact installed.tail (.answered .done rfl rfl rfl rfl)

end Supervisor

namespace Site

open Supervisor

/-- A push waits for the slot that the confirmation of a hand-off takes. -/
theorem exists_waiting_push :
    ∃ site plan, Reachable (Supervisor.Step oneProducer) Publisher.oneDesk site ∧
      site.run = oneProducerReady ∧
      site.claims = [{ generation := 1, ticket := 0 }, { generation := 1, ticket := 1 }] ∧
      site.callers 0 = some { errand := .confirmation oneQueueSession 0 } ∧
      site.callers 1 = some { errand := .push plan (.claiming oneQueueSession) } := by
  let handing : Publisher.Request := { content := .handOff [], priority := 0 }
  let pushing : Publisher.Request := { content := .raw [], priority := 0 }
  have ready : Reachable (Supervisor.Step oneProducer) Publisher.oneDesk
      { run := oneProducerReady } :=
    steps_of_run _ (Run.isAtRest_of_turns turns_oneProducerReady).2
  have handed := ready.tail (.attend (.arrive _ handing) rfl rfl rfl)
  have begun := handed.tail (.attend (.handOff 0 rfl (.interrupt rfl)) rfl rfl rfl)
  have granted := begun.tail (.attend (.handOff 0 rfl (.interrupt rfl)) rfl rfl rfl)
  have written := granted.tail (.attend (.handOff 0 rfl
    (.reply (.ok (.confirmation 0)) rfl (fun _ same => by cases same; rfl))) rfl rfl rfl)
  have pushed := written.tail (.attend (.arrive _ pushing) rfl rfl rfl)
  have waiting := pushed.tail (.attend (.push 1 rfl (.interrupt rfl)) rfl rfl rfl)
  exact ⟨_, _, waiting, rfl, rfl, rfl, rfl⟩

/-- The session is replaced while a push waits. Once the confirmation is dropped that was
in its way, the push writes on the former channel. -/
theorem exists_stale_publish :
    ∃ before after, Reachable (Supervisor.Step oneProducer) Publisher.oneDesk before ∧
      Step (Supervisor.Step oneProducer) Publisher.oneDesk before after ∧
      before.crowd.Publishes after.crowd 1 oneQueueSession ∧
      ¬ before.run.IsNewest oneQueueSession := by
  obtain ⟨site, plan, reached, ready, line, held, waits⟩ := exists_waiting_push
  have works : Supervisor.Steps oneProducer site.run oneProducerReplaced :=
    ready ▸ steps_oneProducerReplaced
  let replaced : Site := { site with run := oneProducerReplaced }
  let freed : Site := replaced.attended (replaced.crowd.dismiss 0)
  have drop : Step (Supervisor.Step oneProducer) Publisher.oneDesk replaced freed :=
    .attend (.drop held) rfl rfl rfl
  have first : freed.crowd.claims.holder? 1 = some 1 := by
    change (site.claims.release 0).holder? 1 = some 1
    rw [line]
    rfl
  have present : freed.crowd.callers 1 =
      some { errand := .push plan (.claiming oneQueueSession) } := by
    change (replaced.crowd.dismiss 0).callers 1 = _
    rw [Publisher.Crowd.dismiss, Publisher.Crowd.callers_put]
    exact waits
  have granted : Publisher.Push.Occurs plan freed.crowd.cells freed.crowd.claims freed.crowd.now 1
      (.claiming oneQueueSession) .granted := by
    have up : freed.crowd.cells.isShutDown = false := rfl
    exact .interrupt (by simp [Publisher.Push.Point.interrupt?, up, oneQueueSession, first])
  refine ⟨freed, _, (reached.trans (steps_of_run _ works)).tail drop,
    .attend (.push 1 present granted) rfl rfl rfl, ⟨?_, _, rfl, rfl⟩, ?_⟩
  · intro former found
    cases present.symm.trans found
    rfl
  · intro newest
    let second : Session := { generation := 2, connection := 0, channel := 1 }
    have last : freed.run.history.getLast? = some { time := 0, mark := .wrote (some second) } := rfl
    exact absurd (newest 0 second (List.mem_of_getLast? last)) (by decide)

theorem publishes_on_newest_iff_replaced :
    ∃ (before after taken : Site) (since : List Entry),
      Reachable (Supervisor.Step oneProducer) Publisher.oneDesk before ∧
      Step (Supervisor.Step oneProducer) Publisher.oneDesk before after ∧
      before.crowd.Publishes after.crowd 1 oneQueueSession ∧
      HasWaited oneProducer Publisher.oneDesk 1 oneQueueSession taken before ∧
      before.run.history = taken.run.history ++ since ∧
      (before.run.IsNewest oneQueueSession ↔ ∀ entry ∈ since, entry.stores = false) := by
  obtain ⟨before, after, reached, step, publishes, -⟩ := exists_stale_publish
  obtain ⟨taken, since, waited, told, newest⟩ := publishes_on_newest_iff reached step publishes
  exact ⟨before, after, taken, since, reached, step, publishes, waited, told, newest⟩

/-- A publisher may write on a channel that was left for a later session's. -/
theorem publish_on_replaced_channel :
    ¬ ∀ (plan : Plan) (desk : Publisher.Desk) (before after : Site) (ticket : Nat)
      (session : Session), Reachable (Supervisor.Step plan) desk before →
      Step (Supervisor.Step plan) desk before after →
      before.crowd.Publishes after.crowd ticket session → before.run.IsNewest session := by
  intro claimed
  obtain ⟨before, after, reached, step, publishes, stale⟩ := exists_stale_publish
  exact stale (claimed oneProducer Publisher.oneDesk before after 1 oneQueueSession reached step
    publishes)

end Site

end AmqpClient
