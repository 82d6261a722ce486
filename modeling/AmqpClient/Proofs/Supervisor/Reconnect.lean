import AmqpClient.Proofs.Supervisor.Session

/-!
# Requests to reconnect

A request names a generation and wakes the loop. Requests that the loop has not
looked at yet are one, and the generation that was named last counts for all of
them. A request for the session that the loop watches therefore fails exactly if
another generation is named after it, and before the loop looks.
-/

set_option autoImplicit false

namespace AmqpClient.Supervisor

variable {plan : Plan} {run after : Run} {session : Session}

/-! ## What one step does to the session -/

/-- The loop is where it was, and so are its session and every request to reconnect. -/
structure Run.Rests (run after : Run) : Prop where
  point : after.point = run.point
  session : after.cells.session = run.cells.session
  generations : after.cells.generations = run.cells.generations
  pending : run.cells.hasRequest = true → after.cells.hasRequest = true

/-- Every step leaves the loop where it is, or is the loop's reaction to one event. -/
theorem Step.rests_or_reacts (step : Step plan run after) (coherent : run.IsCoherent) :
    run.Rests after ∨
      ∃ event history, after = ({ run with history } : Run).react plan event := by
  cases step with
  | pass | signal | name | poll | overlook => exact .inl ⟨rfl, rfl, rfl, id⟩
  | wake => exact .inl ⟨rfl, rfl, rfl, fun _ => rfl⟩
  | start started =>
      obtain ⟨-, rfl⟩ := SupervisorCells.eq_of_start started
      exact .inl ⟨rfl, rfl, rfl, id⟩
  | raise raised =>
      obtain ⟨-, rfl⟩ := SupervisorCells.eq_of_raiseShutdown raised
      exact .inl ⟨rfl, rfl, rfl, id⟩
  | take ending =>
      left
      cases handle : run.cells.handle with
      | present => constructor <;> simp [SupervisorCells.takeHandle_of_present handle]
      | absent =>
          have atEntry := coherent.unstarted handle
          have empty := coherent.session_eq_none (by simp [atEntry])
          constructor <;> simp [SupervisorCells.takeHandle_of_absent handle, empty]
      | taken => exact absurd handle (coherent.ending ending).2
  | call idle overlooked =>
      left
      constructor <;> simp
  | @look event started looks found =>
      obtain ⟨history, same⟩ := run.endCall_eq plan .abandoned
      exact .inr ⟨event, history, by rw [Run.meet, same]⟩
  | @reply call reply calling overlooked pending answers =>
      obtain ⟨history, same⟩ := run.endCall_eq plan (.returned · reply)
      exact .inr ⟨.replied reply, history, by rw [Run.receive, same]⟩
  | expire waits overlooked limit due =>
      obtain ⟨history, same⟩ := run.endCall_eq plan .cutOff
      exact .inr ⟨.expired, history, by rw [Run.timeOut, same]⟩

theorem Step.named_prefix (step : Step plan run after) : run.named <+: after.named := by
  cases step with
  | pass | signal | start | raise | wake | poll | overlook => exact List.prefix_rfl
  | take => simp
  | name generation => exact List.prefix_append _ _
  | look | call | reply | expire =>
      simp [Run.meet, Run.receive, Run.timeOut, Run.react]

theorem Steps.named_prefix (taken : Steps plan run after) : run.named <+: after.named := by
  induction taken with
  | refl => exact List.prefix_rfl
  | tail _ step ih => exact ih.trans step.named_prefix

/-! ## What has been watched -/

namespace Run

/-- The loop watches a session, or has left it for good: later sessions are of later
generations. -/
structure HasSeen (session : Session) (run : Run) : Prop where
  made : session.generation ≤ run.cells.generations
  passed : run.point ≠ .ready session →
    ∀ later, run.cells.session = some later → session.generation < later.generation

private theorem hasSeen_of_ready (coherent : run.IsCoherent)
    (watched : run.point = .ready session) :
    run.HasSeen session where
  made := Nat.le_of_eq (coherent.counted session ((coherent.current session).mp watched))
  passed away := absurd watched away

theorem HasSeen.react (seen : run.HasSeen session) (coherent : run.IsCoherent) (event : Event) :
    (run.react plan event).HasSeen session := by
  rcases coherent.react_moves plan event with ⟨watched, atReady, -, move⟩ | ⟨empty, move⟩
  · cases move with
    | leave state passed version hasRequest newer cleared leads meant pending =>
        constructor
        · simpa [Run.react, cleared] using seen.made
        · simp [Run.react, cleared]
    | stay hasRequest same leads stale pending =>
        constructor
        · simpa [Run.react, same] using seen.made
        · simpa [Run.react, same, leads, Next.point, ← atReady] using seen.passed
  · cases move with
    | keep state passed same leads =>
        constructor
        · simpa [Run.react, same] using seen.made
        · simp [Run.react, same, empty]
    | withdraw state passed version newer cleared leads =>
        constructor
        · simpa [Run.react, cleared] using seen.made
        · simp [Run.react, cleared]
    | publish published passed next stored leads =>
        have older : session.generation < published.generation := by
          rw [next]
          exact Nat.lt_succ_of_le seen.made
        constructor
        · simpa [Run.react, stored] using Nat.le_of_lt older
        · simpa [Run.react, stored] using fun _ => older

theorem HasSeen.step (seen : run.HasSeen session) (coherent : run.IsCoherent)
    (step : Step plan run after) : after.HasSeen session := by
  rcases step.rests_or_reacts coherent with rests | ⟨event, history, rfl⟩
  · exact ⟨rests.generations ▸ seen.made, rests.point ▸ rests.session ▸ seen.passed⟩
  · have seen : ({ run with history } : Run).HasSeen session := ⟨seen.made, seen.passed⟩
    exact seen.react (coherent.congr rfl rfl rfl rfl) event

theorem HasSeen.steps (seen : run.HasSeen session) (coherent : run.IsCoherent)
    (taken : Steps plan run after) : after.HasSeen session := by
  induction taken with
  | refl => exact seen
  | tail before step ih => exact ih.step (coherent.steps before) step

end Run

/-! ## What a look at a request does -/

/-- A pending request is looked at only while a session is watched, and the session
is left exactly if it is of the generation that was named last. -/
theorem Step.consumes (step : Step plan run after) (coherent : run.IsCoherent)
    (pending : run.cells.hasRequest = true) (consumed : after.cells.hasRequest = false) :
    ∃ watched, run.point = .ready watched ∧
      after.cells.session =
        if run.cells.requested = watched.generation then none else some watched := by
  rcases step.rests_or_reacts coherent with rests | ⟨event, history, rfl⟩
  · -- Whatever leaves the loop where it is leaves a pending request pending.
    simp [rests.pending pending] at consumed
  · simp only [Run.react, Run.cells_moveTo, Run.cells_setCells] at consumed ⊢
    rcases coherent.react_moves plan event with ⟨watched, atReady, held, move⟩ | ⟨-, move⟩
    · refine ⟨watched, atReady, ?_⟩
      cases move with
      | leave state passed version hasRequest newer cleared leads meant unlooked =>
          by_cases isLook : event = .reconnect
          · simp [cleared, meant isLook]
          · simp [cleared, unlooked isLook, pending] at consumed
      | stay hasRequest same leads stale unlooked =>
          by_cases isLook : event = .reconnect
          · simp [same, held, stale isLook]
          · simp [same, unlooked isLook, pending] at consumed
    · cases move with
      | keep state passed same leads => simp [same, pending] at consumed
      | withdraw state passed version newer cleared leads => simp [cleared, pending] at consumed
      | publish published passed next stored leads => simp [stored, pending] at consumed

/-! ## A run that comes to a session -/

def oneQueue : Plan :=
  { endpoint := default, topology := .ofQueue "jobs", role := .consumer }

def oneQueueSession : Session :=
  { generation := 1, connection := 0, channel := 0 }

def oneQueueReady : Run :=
  let started : Run := { cells := { handle := .present } }
  let dialing := (started.meet oneQueue .begin).turn.makeCall oneQueue
  let connected := (dialing.receive oneQueue (.ok (.connection 0))).turn.makeCall oneQueue
  let opened := connected.receive oneQueue (.ok (.channel 0))
  opened.receive oneQueue (.ok (.found true))

theorem reachable_oneQueueReady : Reachable oneQueue oneQueueReady := by
  have started : Step oneQueue {} { cells := { handle := .present } } := .start rfl
  have begun := Relation.ReflTransGen.single started |>.tail (.look (by decide) rfl rfl)
  have dialing := (begun.tail (.overlook rfl rfl)).tail (.call rfl rfl)
  have connected := dialing.tail (.answered (.connection 0) rfl rfl rfl rfl)
  have opening := (connected.tail (.overlook rfl rfl)).tail (.call rfl rfl)
  have opened := opening.tail (.answered (.channel 0) rfl rfl rfl rfl)
  exact opened.tail (.answered (.found true) rfl rfl rfl rfl)

/-! ## What becomes of a request -/

/-- What becomes of a request for the session that the loop watches, once the loop has
looked at the pending requests: the session is kept exactly if a request for another
generation was the last to come before the look. -/
theorem isCurrent_after_look_iff {waiting woken looking after : Run}
    (reached : Reachable plan waiting) (watched : waiting.point = .ready session)
    (untilWoken : Steps plan (waiting.name session.generation) woken)
    (untilLook : Steps plan woken.wake looking) (look : Step plan looking after)
    (pending : looking.cells.hasRequest = true) (consumed : after.cells.hasRequest = false) :
    ∃ later, looking.named = waiting.named ++ session.generation :: later ∧
      (after.currentGeneration? = some session.generation ↔
        looking.point = .ready session ∧
          ∃ other, later.getLast? = some other ∧ other ≠ session.generation) := by
  have coherent := Run.isCoherent_of_reachable reached
  have taken : Steps plan waiting looking :=
    ((Relation.ReflTransGen.head (.name waiting session.generation) untilWoken).tail
      (.wake woken)).trans untilLook
  have lookingCoherent := coherent.steps taken
  have seen := (Run.hasSeen_of_ready coherent watched).steps coherent taken
  have kept : (waiting.name session.generation).named <+: woken.named :=
    Steps.named_prefix untilWoken
  have keptOn : woken.wake.named <+: looking.named := Steps.named_prefix untilLook
  obtain ⟨later, names⟩ : waiting.named ++ [session.generation] <+: looking.named :=
    kept.trans keptOn
  rw [List.append_assoc, List.singleton_append] at names
  obtain ⟨current, atReady, left⟩ := look.consumes lookingCoherent pending consumed
  have last : looking.cells.requested = later.getLast?.getD session.generation := by
    rw [lookingCoherent.requested, ← names]
    simp [List.getLast?_append, List.getLast?_cons]
  refine ⟨later, names.symm, ?_⟩
  by_cases same : current = session
  · -- The session is still watched, so the name that came last decides.
    subst same
    rw [Run.currentGeneration?, left, last]
    cases later.getLast? with
    | none => simp
    | some other =>
        by_cases again : other = current.generation <;> simp [again, atReady]
  · -- The loop has come to a later session, which is the only one it may keep.
    have away : looking.point ≠ .ready session := by simpa [atReady] using same
    have newer : session.generation < current.generation :=
      seen.passed away current ((lookingCoherent.current current).mp atReady)
    have lost : after.currentGeneration? ≠ some session.generation := by
      rw [Run.currentGeneration?, left]
      split
      · simp
      · simpa using (Nat.ne_of_lt newer).symm
    simp [lost, away]

theorem isCurrent_after_single_request :
    Reachable oneQueue oneQueueReady ∧
      ∃ later, (oneQueueReady.name 1).wake.named = [] ++ 1 :: later ∧
        (((oneQueueReady.name 1).wake.meet oneQueue .reconnect).currentGeneration? = some 1 ↔
          (oneQueueReady.name 1).wake.point = .ready oneQueueSession ∧
            ∃ other, later.getLast? = some other ∧ other ≠ 1) := by
  have watched : oneQueueReady.point = .ready oneQueueSession := rfl
  have named : Steps oneQueue (oneQueueReady.name 1) (oneQueueReady.name 1) := .refl
  have look : Step oneQueue (oneQueueReady.name 1).wake
      ((oneQueueReady.name 1).wake.meet oneQueue .reconnect) := .look (by decide) rfl rfl
  exact ⟨reachable_oneQueueReady,
    isCurrent_after_look_iff reachable_oneQueueReady watched named .refl look rfl rfl⟩

/-- A request that names an older generation cancels one for the current session. -/
theorem request_lost_to_older_generation :
    ¬ ∀ (plan : Plan) (session : Session) (waiting woken looking after : Run),
      Reachable plan waiting → waiting.point = .ready session →
      Steps plan (waiting.name session.generation) woken → Steps plan woken.wake looking →
      Step plan looking after → looking.cells.hasRequest = true →
      after.cells.hasRequest = false →
      (∀ named ∈ looking.named, named ≤ session.generation) →
      after.currentGeneration? ≠ some session.generation := by
  intro claimed
  let woken := oneQueueReady.name 1
  let looking := (woken.wake.name 0).wake
  have untilLook : Steps oneQueue woken.wake looking :=
    (Relation.ReflTransGen.single (.name _ 0)).tail (.wake _)
  have look : Step oneQueue looking (looking.meet oneQueue .reconnect) :=
    .look (by decide) rfl rfl
  exact claimed oneQueue oneQueueSession oneQueueReady woken looking _ reachable_oneQueueReady
    rfl .refl untilLook look rfl rfl (by decide) rfl

end AmqpClient.Supervisor
