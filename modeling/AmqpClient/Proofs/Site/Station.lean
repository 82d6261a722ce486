import AmqpClient.Proofs.Consumer.Entries
import AmqpClient.Proofs.Site.Basic
import AmqpClient.Proofs.Supervisor.Release
import AmqpClient.Proofs.Supervisor.SetUp

/-!
# A consumer and its supervisor

The supervisor works by itself. The consumer sees what it has come to, and does nothing to it
but to ask for a new session. Whatever session a consumer takes was stored by the supervisor,
right after the setup of its channel; so two sessions have two channels, as long as the broker
never gives out a channel twice.
-/

set_option autoImplicit false

namespace AmqpClient

namespace Supervisor

/-! ## Channels that are opened once -/

/-- The channel that a mark tells to be open. -/
def Mark.opened? : Mark → Option Nat
  | .returned (.openChannel _) (.ok (.channel channel)) => some channel
  | _ => none

/-- No channel was given out twice. -/
def OpensAnew (marks : List Mark) : Prop :=
  (marks.filterMap Mark.opened?).Nodup

instance (marks : List Mark) : Decidable (OpensAnew marks) :=
  inferInstanceAs (Decidable (marks.filterMap Mark.opened?).Nodup)

section

variable {plan : Plan} {run after : Run} {marks : List Mark} {first second : Session}

private theorem not_wrote_mem_setUpMarks {session : Session} {isQueueFound isExchangeFound : Bool}
    {session? : Option Session} :
    .wrote session? ∉ setUpMarks plan session isQueueFound isExchangeFound := by
  have queue : .wrote session? ∉ queueMarks plan.topology session.channel isQueueFound := by
    cases isQueueFound <;> simp [queueMarks, answered]
  have routing : .wrote session? ∉ routingMarks plan.topology session.channel isExchangeFound := by
    unfold routingMarks
    split
    · cases isExchangeFound <;> simp [exchangeLookUpMarks, answered]
    · exact List.not_mem_nil
  have confirm : .wrote session? ∉ confirmMarks plan.role session.channel := by
    cases plan.role <;> simp [confirmMarks, answered]
  simp [setUpMarks, queue, routing, confirm, answered]

private theorem opened_of_setUpMarks {session : Session} {isQueueFound isExchangeFound : Bool}
    (suffix : setUpMarks plan session isQueueFound isExchangeFound <:+ marks) :
    session.channel ∈ marks.filterMap Mark.opened? := by
  have told : .returned (.openChannel session.connection) (.ok (.channel session.channel)) ∈
      setUpMarks plan session isQueueFound isExchangeFound := by
    simp [setUpMarks, answered]
  exact List.mem_filterMap.mpr ⟨_, suffix.subset told, rfl⟩

/-- The setup of a session comes after all sessions that were stored before. -/
theorem WritesSetUp.opened_between {before between after : List Mark}
    (sound : WritesSetUp plan marks)
    (split : marks = before ++ .wrote (some first) :: between ++ .wrote (some second) :: after) :
    first.channel ∈ before.filterMap Mark.opened? ∧
      second.channel ∈ between.filterMap Mark.opened? := by
  constructor
  · obtain ⟨_, _, suffix⟩ := sound before first (between ++ .wrote (some second) :: after)
      (by rw [split, List.append_assoc, List.cons_append])
    exact opened_of_setUpMarks suffix
  · obtain ⟨isQueueFound, isExchangeFound, suffix⟩ := sound _ second after split
    have behind : .wrote (some first) :: between <:+ before ++ .wrote (some first) :: between :=
      List.suffix_append _ _
    rcases List.suffix_or_suffix_of_suffix suffix behind with inside | around
    · rcases List.suffix_cons_iff.mp inside with same | inside
      · exact absurd (same ▸ List.mem_cons_self) not_wrote_mem_setUpMarks
      · exact opened_of_setUpMarks inside
    · exact absurd (around.subset List.mem_cons_self) not_wrote_mem_setUpMarks

private theorem WritesSetUp.channel_ne {before between after : List Mark}
    (sound : WritesSetUp plan marks)
    (anew : OpensAnew marks)
    (split : marks = before ++ .wrote (some first) :: between ++ .wrote (some second) :: after) :
    first.channel ≠ second.channel := by
  obtain ⟨early, late⟩ := sound.opened_between split
  rw [OpensAnew, split, List.filterMap_append, List.filterMap_append, List.filterMap_cons_none rfl,
    List.nodup_append] at anew
  have apart := (List.nodup_append.mp anew.1).2.2
  exact apart _ early _ late

/-- Two sessions that were stored have two channels. -/
theorem WritesSetUp.eq_of_channel_eq (sound : WritesSetUp plan marks) (anew : OpensAnew marks)
    (stored : .wrote (some first) ∈ marks) (storedToo : .wrote (some second) ∈ marks)
    (same : first.channel = second.channel) : first = second := by
  obtain ⟨before, after, split⟩ := List.append_of_mem stored
  rw [split] at storedToo
  rcases List.mem_append.mp storedToo with early | late
  · obtain ⟨front, between, rfl⟩ := List.append_of_mem early
    exact absurd same.symm (sound.channel_ne anew split)
  · rcases List.mem_cons.mp late with written | late
    · exact (Option.some.inj (Mark.wrote.inj written)).symm
    · obtain ⟨between, back, rfl⟩ := List.append_of_mem late
      rw [← List.cons_append, ← List.append_assoc] at split
      exact absurd same (sound.channel_ne anew split)

/-! ## What steps of the supervisor keep -/

private theorem goesOn_step : Site.GoesOn (Step plan) := by
  intro run after step
  have own (work : Work plan run after) :
      run.now ≤ after.now ∧ (run.cells.isShutDown = true → after.cells.isShutDown = true) := by
    have surrounds := Run.Surrounds.work work
    exact ⟨surrounds.now.symm.le, surrounds.callers.isShutDown.trans⟩
  cases step with
  | pass => exact ⟨Nat.le_add_right _ _, id⟩
  | signal | name | wake | poll => exact ⟨Nat.le_refl _, id⟩
  | start started =>
      obtain ⟨-, rfl⟩ := SupervisorCells.eq_of_start started
      exact ⟨Nat.le_refl _, id⟩
  | raise raised =>
      obtain ⟨-, rfl⟩ := SupervisorCells.eq_of_raiseShutdown raised
      exact ⟨Nat.le_refl _, fun _ => rfl⟩
  | take =>
      obtain ⟨history, same⟩ := run.setCells_eq run.cells.takeHandle
      rw [same]
      refine ⟨Nat.le_refl _, fun down => ?_⟩
      cases handle : run.cells.handle <;>
        simp [SupervisorCells.takeHandle, handle, down, SupervisorCells.setSession,
          SupervisorCells.setState]
  | look started looks found => exact own (.look started looks found)
  | overlook looks nothing => exact own (.overlook looks nothing)
  | call idle overlooked => exact own (.call idle overlooked)
  | reply calling overlooked pending answers =>
      exact own (.reply calling overlooked pending answers)
  | expire waits overlooked limit due => exact own (.expire waits overlooked limit due)

end

/-- A request to reconnect, if there is one. -/
def Run.ask (request? : Option Nat) (run : Run) : Run :=
  match request? with
  | some generation => (run.name generation).wake
  | none => run

private theorem Run.steps_ask {plan : Plan} {run : Run} (request? : Option Nat) :
    Steps plan run (run.ask request?) := by
  cases request? with
  | none => exact .refl
  | some generation =>
      exact (Relation.ReflTransGen.single (.name run generation)).tail (.wake _)

end Supervisor

/-! ## Both together -/

structure Station where
  run : Supervisor.Run := {}
  diary : Consumer.Diary := {}

namespace Station

/-- One step of the supervisor, or one of the consumer. -/
inductive Step (plan : Supervisor.Plan) (consumer : Consumer.Plan) : Station → Station → Prop where
  | supervise {station : Station} {run : Supervisor.Run} :
      Supervisor.Step plan station.run run →
      Step plan consumer station
        { run, diary := station.diary.sees run.signals run.cells run.now }
  | consume {station : Station} {diary : Consumer.Diary} {request? : Option Nat} :
      Consumer.Diary.Acts consumer request? station.diary diary →
      Step plan consumer station { run := station.run.ask request?, diary }

abbrev Steps (plan : Supervisor.Plan) (consumer : Consumer.Plan) : Station → Station → Prop :=
  Relation.ReflTransGen (Step plan consumer)

def Reachable (plan : Supervisor.Plan) (consumer : Consumer.Plan) (station : Station) : Prop :=
  Steps plan consumer {} station

/-- The consumer sees the supervisor as it is. -/
structure IsJoint (station : Station) : Prop where
  signals : station.diary.run.signals = station.run.signals
  cells : station.diary.run.cells = station.run.cells
  now : station.diary.run.now = station.run.now

section

variable {plan : Supervisor.Plan} {consumer : Consumer.Plan} {station after : Station}

theorem IsJoint.step (joint : station.IsJoint) (step : Step plan consumer station after) :
    after.IsJoint := by
  cases step with
  | supervise => exact ⟨rfl, rfl, rfl⟩
  | @consume diary request? acts =>
      obtain ⟨signals, now, cells⟩ := acts.surroundings
      cases request? with
      | none =>
          exact ⟨signals.trans joint.signals, cells.trans joint.cells, now.trans joint.now⟩
      | some generation =>
          refine ⟨signals.trans joint.signals, cells.trans ?_, now.trans joint.now⟩
          rw [joint.cells]
          rfl

private theorem isJoint_of_reachable (reached : Reachable plan consumer station) :
    station.IsJoint := by
  induction reached with
  | refl => exact ⟨rfl, rfl, rfl⟩
  | tail _ step joint => exact joint.step step

/-- While the consumer does nothing, it sees what the supervisor does. -/
theorem IsJoint.steps_of_run {run : Supervisor.Run} (joint : station.IsJoint)
    (works : Supervisor.Steps plan station.run run) :
    Steps plan consumer station
      { run, diary := station.diary.sees run.signals run.cells run.now } := by
  induction works with
  | refl =>
      rw [← joint.signals, ← joint.cells, ← joint.now]
      exact .refl
  | @tail middle run _ work ih =>
      let between : Station :=
        { run := middle, diary := station.diary.sees middle.signals middle.cells middle.now }
      have step : Step plan consumer between
          { run, diary := station.diary.sees run.signals run.cells run.now } := .supervise work
      exact ih.tail step

theorem Step.run (step : Step plan consumer station after) :
    Supervisor.Steps plan station.run after.run := by
  cases step with
  | supervise work => exact .single work
  | consume => exact Supervisor.Run.steps_ask _

theorem run_of_reachable (reached : Reachable plan consumer station) :
    Supervisor.Reachable plan station.run := by
  induction reached with
  | refl => exact .refl
  | tail _ step ih => exact ih.trans step.run

theorem IsJoint.diary (joint : station.IsJoint) (step : Step plan consumer station after) :
    Consumer.Diary.Step consumer station.diary after.diary := by
  cases step with
  | @supervise run work =>
      obtain ⟨later, kept⟩ := Supervisor.goesOn_step _ _ work
      obtain ⟨elapsed, passed⟩ := Nat.exists_eq_add_of_le later
      rw [passed, ← joint.now]
      exact .around _ _ elapsed (joint.cells ▸ kept)
  | consume acts => exact .act acts

private theorem diary_of_reachable (reached : Reachable plan consumer station) :
    Consumer.Diary.Steps consumer {} station.diary := by
  induction reached with
  | refl => exact .refl
  | tail before step ih => exact ih.tail ((isJoint_of_reachable before).diary step)

theorem isInOrder_of_reachable (reached : Reachable plan consumer station) :
    station.diary.IsInOrder consumer :=
  Consumer.Diary.isInOrder_of_steps (diary_of_reachable reached)

/-- A session that was stored is told of ever after. -/
theorem Step.stored {session : Session} (step : Step plan consumer station after)
    (stored : .wrote (some session) ∈ station.run.marks) :
    .wrote (some session) ∈ after.run.marks := by
  obtain ⟨since, told⟩ := Supervisor.Steps.history_prefix step.run
  rw [Supervisor.Run.marks, ← told, List.map_append]
  exact List.mem_append_left _ stored

/-- What stands in the diary stays there. -/
theorem Step.told {mark : Consumer.Diary.Mark} (step : Step plan consumer station after)
    (told : mark ∈ station.diary.marks) : mark ∈ after.diary.marks := by
  cases step with
  | supervise => exact told
  | consume acts =>
      cases acts with
      | rest => exact told
      | call =>
          rw [Consumer.Diary.marks_makeCall]
          exact List.mem_append_left _ told
      | meet =>
          rw [Consumer.Diary.marks_meet]
          exact List.mem_append_left _ told

/-- Whatever session a consumer has taken was stored by the supervisor. -/
theorem stored_of_took {session : Session} (reached : Reachable plan consumer station)
    (took : .took session ∈ station.diary.marks) :
    .wrote (some session) ∈ station.run.marks := by
  induction reached with
  | refl => cases took
  | @tail before after reached step ih =>
      have stays (stored : .wrote (some session) ∈ before.run.marks) :
          .wrote (some session) ∈ after.run.marks := step.stored stored
      cases step with
      | supervise => exact stays (ih took)
      | consume acts =>
          refine stays ?_
          cases acts with
          | rest => exact ih took
          | call =>
              rw [Consumer.Diary.marks_makeCall] at took
              rcases List.mem_append.mp took with early | late
              · exact ih early
              · cases List.mem_singleton.mp late
          | meet kept occurs =>
              rw [Consumer.Diary.marks_meet] at took
              rcases List.mem_append.mp took with early | late
              · exact ih early
              · have found := (Consumer.Diary.passes_of_occurs occurs).session_of_took late
                have accounted := Supervisor.Run.isAccounted_of_reachable (run_of_reachable reached)
                rw [(isJoint_of_reachable reached).cells, accounted.held] at found
                exact Supervisor.wrote_of_lastWritten found

/-- Sessions that a consumer speaks of are told apart by their channels. -/
theorem eq_of_channel_eq {first second : Session} {entry other : Consumer.Diary.Entry}
    (reached : Reachable plan consumer station) (anew : Supervisor.OpensAnew station.run.marks)
    (told : entry ∈ station.diary.entries) (toldToo : other ∈ station.diary.entries)
    (named : entry.mark.session? = some first) (namedToo : other.mark.session? = some second)
    (same : first.channel = second.channel) : first = second := by
  have stored {session : Session} {entry : Consumer.Diary.Entry}
      (told : entry ∈ station.diary.entries) (named : entry.mark.session? = some session) :
      .wrote (some session) ∈ station.run.marks := by
    obtain ⟨front, back, split⟩ := List.append_of_mem told
    obtain ⟨time, took⟩ := (isInOrder_of_reachable reached).exists_took split named
    exact stored_of_took reached (List.mem_map_of_mem took)
  have sound := (Supervisor.Run.isAccounted_of_reachable (run_of_reachable reached)).sound
  exact sound.eq_of_channel_eq anew (stored told named) (stored toldToo namedToo) same

end

end Station

end AmqpClient
