import AmqpClient.Proofs.Supervisor.Owners
import AmqpClient.Proofs.Supervisor.Trail

/-!
# One life

However the owners of a supervisor get in each other's way, its loop is spawned once at
most, and its end is brought about by one call. What carries this through all
interleavings is the loop that is not there yet: a start that has seen the flag down may
as well have spawned the loop at that moment, since nothing that happens until it does
looks at the handle.
-/

set_option autoImplicit false

namespace AmqpClient.Supervisor

/-! ## A loop that is about to be spawned -/

namespace Run

variable {plan : Plan} {run after : Run}

def withLoop (run : Run) : Run :=
  { run with cells := { run.cells with handle := .present } }

/-- Before the loop is spawned, everything around it goes on as if it were there. -/
theorem step_withLoop (coherent : run.IsCoherent) (absent : run.cells.handle = .absent)
    (step : Step plan run after) (leaves : Owners.LeavesOwners run after) :
    Step plan run.withLoop after.withLoop := by
  have atEntry : run.point = .entry := coherent.unstarted absent
  cases step with
  | pass milliseconds => exact .pass run.withLoop milliseconds
  | signal signals => exact .signal run.withLoop signals
  | name generation => exact .name run.withLoop generation
  | wake => exact .wake run.withLoop
  | poll waits =>
      have waits : run.withLoop.IsWaiting plan := waits
      exact .poll waits
  | start started =>
      obtain ⟨-, rfl⟩ := SupervisorCells.eq_of_start started
      cases leaves.handle.trans absent
  | raise raised =>
      obtain ⟨up, rfl⟩ := SupervisorCells.eq_of_raiseShutdown raised
      cases leaves.isShutDown.trans up
  | take ending => cases leaves.isEnding.trans ending
  | look started looks found => exact absurd absent started
  | overlook looks none => simp [atEntry, Point.interrupt?] at none
  | call idle overlooked =>
      have same : (run.makeCall plan).withLoop = run.withLoop.makeCall plan := by
        simp [makeCall, atEntry, Point.call?, withLoop]
      rw [same]
      have idle : run.withLoop.isCalling = false := idle
      exact .call idle overlooked
  | reply calling overlooked pending answers => simp [atEntry, Point.call?] at pending
  | expire waits overlooked limit due => simp [atEntry, Point.deadline?] at limit

end Run

namespace Owners

/-! ## What has been put down about a call -/

/-- What the deeds tell of a call that is not over. -/
structure Stands (deeds : List Deed) (ticket : Nat) (stand : Stand) : Prop where
  asked : .began ticket stand.wish ∈ deeds
  unanswered : ∀ wish result, .answered ticket wish result ∉ deeds
  admitted : .admitted ticket ∈ deeds ↔ stand.isAdmitted = true
  spawned : .spawned ticket ∈ deeds ↔ stand = .started
  raised : .raised ticket ∈ deeds ↔ stand.hasRaised = true

namespace Stands

variable {deeds : List Deed} {ticket : Nat} {old new : Stand} {deed : Deed}

theorem proceed (stands : Stands deeds ticket old) (wish : new.wish = old.wish)
    (silent : ∀ wish result, deed ≠ .answered ticket wish result)
    (admitted : new.isAdmitted = true ↔ old.isAdmitted = true ∨ deed = .admitted ticket)
    (spawned : new = .started ↔ old = .started ∨ deed = .spawned ticket)
    (raised : new.hasRaised = true ↔ old.hasRaised = true ∨ deed = .raised ticket) :
    Stands (deeds ++ [deed]) ticket new := by
  constructor
  · rw [wish]
    exact List.mem_append_left _ stands.asked
  · intro wish result told
    rcases List.mem_append.mp told with former | last
    · exact stands.unanswered wish result former
    · exact silent wish result (List.mem_singleton.mp last).symm
  · rw [List.mem_append, List.mem_singleton, stands.admitted, admitted, eq_comm (b := deed)]
  · rw [List.mem_append, List.mem_singleton, stands.spawned, spawned, eq_comm (b := deed)]
  · rw [List.mem_append, List.mem_singleton, stands.raised, raised, eq_comm (b := deed)]

/-- What others do leaves a call where it stands. -/
theorem aside (stands : Stands deeds ticket old) (apart : deed.ticket ≠ ticket) :
    Stands (deeds ++ [deed]) ticket old := by
  have other (mine : Deed) (own : mine.ticket = ticket) : deed ≠ mine := by
    rintro rfl
    exact apart own
  refine stands.proceed rfl (fun wish result => other _ rfl) ?_ ?_ ?_
  · simp [other (.admitted ticket) rfl]
  · simp [other (.spawned ticket) rfl]
  · simp [other (.raised ticket) rfl]

/-- A call begins, of which nothing has been put down before. -/
theorem begin (fresh : ∀ deed ∈ deeds, deed.ticket ≠ ticket) (wish : Wish) :
    Stands (deeds ++ [.began ticket wish]) ticket wish.stand := by
  have absent (deed : Deed) (mine : deed.ticket = ticket) : deed ∉ deeds :=
    fun done => fresh deed done mine
  have unanswered (wish : Wish) (result : Except ClientError Unit) :
      .answered ticket wish result ∉ deeds := absent _ rfl
  have unadmitted : .admitted ticket ∉ deeds := absent _ rfl
  have unspawned : .spawned ticket ∉ deeds := absent _ rfl
  have unraised : .raised ticket ∉ deeds := absent _ rfl
  cases wish with
  | start | shutdown =>
      constructor <;>
        simp [Wish.stand, Stand.wish, Stand.isAdmitted, Stand.hasRaised, unanswered,
          unadmitted, unspawned, unraised]

theorem turn (stands : Stands deeds ticket old) (wish : new.wish = old.wish)
    (admitted : new.isAdmitted = old.isAdmitted) (spawned : new = .started ↔ old = .started)
    (raised : new.hasRaised = old.hasRaised) : Stands deeds ticket new where
  asked := wish ▸ stands.asked
  unanswered := stands.unanswered
  admitted := admitted ▸ stands.admitted
  spawned := stands.spawned.trans spawned.symm
  raised := raised ▸ stands.raised

end Stands

/-- The deeds tell all about the cells and the calls. -/
structure Circle.IsRecorded (circle : Circle) : Prop where
  story : Story circle.deeds
  flag : circle.run.cells.isShutDown = true ↔ ∃ ticket, .raised ticket ∈ circle.deeds
  loop : circle.run.cells.handle ≠ .absent ↔ ∃ ticket, .spawned ticket ∈ circle.deeds
  stands : ∀ ticket stand, circle.calls ticket = some stand →
    Stands circle.deeds ticket stand
  known : ∀ ticket wish, .began ticket wish ∈ circle.deeds → ticket < circle.arrivals

/-- How far the calls have come with the cells. -/
structure Circle.IsOrderly (plan : Plan) (circle : Circle) : Prop where
  reached : Supervisor.Reachable plan circle.run
  ahead : ∀ ticket, circle.calls ticket = some .admitted →
    circle.run.cells.handle = .absent → Supervisor.Reachable plan circle.run.withLoop
  ending : ∀ ticket, circle.calls ticket = some .ending → circle.run.isEnding = true
  closing : ∀ ticket, circle.calls ticket = some .closing →
    circle.run.isEnding = true ∧ circle.run.cells.handle ≠ .present
  /-- While a start is admitted no shutdown has come to the handle. -/
  barred : ∀ ticket, circle.calls ticket = some .admitted →
    (∀ other, circle.calls other ≠ some .closing) ∧
      (circle.run.cells.isShutDown = true → circle.run.isEnding = true)
  settled : ∀ ticket, .answered ticket .shutdown (.ok ()) ∈ circle.deeds →
    circle.run.cells.state = .closed

/-- A start that spawns a loop is the first to do so: the handle of another loop would still
be there. -/
theorem Circle.IsOrderly.absent {plan : Plan} {circle : Circle} {ticket : Nat}
    {cells : SupervisorCells} (orderly : circle.IsOrderly plan)
    (admitted : circle.calls ticket = some .admitted)
    (spawned : circle.run.cells.spawnLoop = .ok cells) : circle.run.cells.handle = .absent := by
  have coherent := Run.isCoherent_of_reachable orderly.reached
  obtain ⟨unfound, -⟩ := SupervisorCells.eq_of_spawnLoop spawned
  cases handle : circle.run.cells.handle with
  | absent => rfl
  | present => exact absurd handle unfound
  | taken =>
      have ending := (orderly.barred ticket admitted).2 (coherent.ended handle)
      exact absurd handle (coherent.ending ending).2

namespace Circle.IsRecorded

variable {circle : Circle} {ticket other : Nat} {stand : Stand}

theorem initial : ({} : Circle).IsRecorded where
  story := .nil
  flag := by simp
  loop := by simp
  stands := nofun
  known := nofun

/-- A call that has raised the flag is the only one. -/
theorem eq_of_raised (recorded : circle.IsRecorded) {one two : Stand}
    (first : circle.calls ticket = some one) (second : circle.calls other = some two)
    (raised : one.hasRaised = true) (also : two.hasRaised = true) : ticket = other :=
  recorded.story.eq_of_raised ((recorded.stands _ _ first).raised.mpr raised)
    ((recorded.stands _ _ second).raised.mpr also)

private theorem unraised (recorded : circle.IsRecorded) (down : circle.run.cells.isShutDown = false)
    (raiser : Nat) : .raised raiser ∉ circle.deeds := by
  intro raised
  cases down.symm.trans (recorded.flag.mpr ⟨raiser, raised⟩)

/-- A call moves on and puts down what it has done. -/
theorem advance {deed : Deed} {stand? : Option Stand} {run : Run}
    (recorded : circle.IsRecorded) (follows : Follows circle.deeds deed)
    (mine : deed.ticket = ticket) (old : ∀ wish, deed ≠ .began ticket wish)
    (moved : ∀ stand, stand? = some stand → Stands (circle.deeds ++ [deed]) ticket stand)
    (flag : run.cells.isShutDown = true ↔
      circle.run.cells.isShutDown = true ∨ ∃ raiser, deed = .raised raiser)
    (loop : run.cells.handle ≠ .absent ↔
      circle.run.cells.handle ≠ .absent ∨ ∃ spawner, deed = .spawned spawner) :
    (((circle.note deed).move ticket stand?).setRun run).IsRecorded where
  story := recorded.story.tell follows
  flag := by
    rw [show (((circle.note deed).move ticket stand?).setRun run).run = run from rfl, flag,
      recorded.flag, ← exists_or]
    simp [Circle.setRun, Circle.move, Circle.note, eq_comm]
  loop := by
    rw [show (((circle.note deed).move ticket stand?).setRun run).run = run from rfl, loop,
      recorded.loop, ← exists_or]
    simp [Circle.setRun, Circle.move, Circle.note, eq_comm]
  stands := by
    intro other stand present
    rcases Circle.placed_or_stood present with ⟨rfl, placed⟩ | ⟨apart, stood⟩
    · exact moved stand placed
    · exact (recorded.stands other stand stood).aside (mine ▸ Ne.symm apart)
  known := by
    intro other wish began
    rcases List.mem_append.mp began with former | last
    · exact recorded.known other wish former
    · cases List.mem_singleton.mp last
      cases mine
      exact absurd rfl (old wish)

/-- A call moves on without a deed. -/
theorem turn {stand? : Option Stand} {run : Run} (recorded : circle.IsRecorded)
    (moved : ∀ stand, stand? = some stand → Stands circle.deeds ticket stand)
    (flag : run.cells.isShutDown = circle.run.cells.isShutDown)
    (loop : run.cells.handle = .absent ↔ circle.run.cells.handle = .absent) :
    ((circle.move ticket stand?).setRun run).IsRecorded where
  story := recorded.story
  flag := by
    rw [show ((circle.move ticket stand?).setRun run).run = run from rfl, flag]
    exact recorded.flag
  loop := (not_congr loop).trans recorded.loop
  stands := by
    intro other stand present
    rcases Circle.placed_or_stood present with ⟨rfl, placed⟩ | ⟨-, stood⟩
    · exact moved stand placed
    · exact recorded.stands other stand stood
  known := recorded.known

theorem answer {wish : Wish} {result : Except ClientError Unit} {run : Run}
    (recorded : circle.IsRecorded) (present : circle.calls ticket = some stand)
    (due : Due circle.deeds ticket wish result)
    (flag : run.cells.isShutDown = circle.run.cells.isShutDown)
    (handle : run.cells.handle = circle.run.cells.handle) :
    ((circle.answer ticket wish result).setRun run).IsRecorded := by
  have unanswered := (recorded.stands ticket stand present).unanswered
  refine recorded.advance (.answered unanswered due) rfl nofun nofun ?_ ?_
  · simp [flag]
  · simp [handle]

theorem welcome (recorded : circle.IsRecorded) (wish : Wish) :
    (circle.welcome wish).IsRecorded := by
  have fresh (deed : Deed) (done : deed ∈ circle.deeds) : deed.ticket ≠ circle.arrivals := by
    obtain ⟨wish, began⟩ := recorded.story.exists_began done
    exact (recorded.known _ wish began).ne
  constructor
  · exact recorded.story.tell (.began fun other began => fresh _ began rfl)
  · simpa [Circle.welcome, Circle.move, Circle.note] using recorded.flag
  · simpa [Circle.welcome, Circle.move, Circle.note] using recorded.loop
  · intro other stand present
    rcases Circle.placed_or_stood present with ⟨rfl, placed⟩ | ⟨apart, stood⟩
    · cases placed
      exact .begin fresh wish
    · exact (recorded.stands other stand stood).aside (Ne.symm apart)
  · intro other asked began
    rcases List.mem_append.mp began with former | last
    · exact (recorded.known other asked former).trans (Nat.lt_succ_self _)
    · cases List.mem_singleton.mp last
      exact Nat.lt_succ_self _

theorem setRun {run : Run} (recorded : circle.IsRecorded)
    (flag : run.cells.isShutDown = circle.run.cells.isShutDown)
    (handle : run.cells.handle = circle.run.cells.handle) : (circle.setRun run).IsRecorded where
  story := recorded.story
  flag := (Bool.eq_iff_iff.mp flag).trans recorded.flag
  loop := (not_congr (Eq.congr_left handle)).trans recorded.loop
  stands := recorded.stands
  known := recorded.known

theorem step {plan : Plan} {after : Circle} (recorded : circle.IsRecorded)
    (orderly : circle.IsOrderly plan) (step : Step plan circle after) : after.IsRecorded := by
  have standing {ticket : Nat} {stand : Stand} (present : circle.calls ticket = some stand) :
      Stands circle.deeds ticket stand := recorded.stands ticket stand present
  cases step with
  | around step leaves => exact recorded.setRun leaves.isShutDown leaves.handle
  | arrive wish => exact recorded.welcome wish
  | lock ticket present free =>
      have moved : Stands circle.deeds ticket .holding :=
        (standing present).turn rfl rfl (by simp) rfl
      exact recorded.turn (by simpa using moved) rfl Iff.rfl
  | grant ticket present looked =>
      have down := SupervisorCells.isShutDown_of_admitStart looked
      have follows : Follows circle.deeds (.admitted ticket) :=
        .admitted (standing present).asked (recorded.unraised down)
      have moved : Stands (circle.deeds ++ [.admitted ticket]) ticket .admitted :=
        (standing present).proceed rfl nofun (by simp [Stand.isAdmitted]) (by simp)
          (by simp [Stand.hasRaised])
      exact recorded.advance follows rfl nofun (by simpa using moved) (by simp) (by simp)
  | refuse ticket present looked =>
      obtain ⟨up, rfl⟩ := SupervisorCells.eq_of_admitStart_error looked
      obtain ⟨raiser, raised⟩ := recorded.flag.mp up
      have barred : .admitted ticket ∉ circle.deeds := by
        simp [(standing present).admitted, Stand.isAdmitted]
      exact recorded.answer present (.lateStart (standing present).asked raised barred) rfl rfl
  | spawn ticket present spawned =>
      have absent := orderly.absent present spawned
      obtain ⟨-, rfl⟩ := SupervisorCells.eq_of_spawnLoop spawned
      have unspawned (spawner : Nat) : .spawned spawner ∉ circle.deeds := fun spawned =>
        recorded.loop.mpr ⟨spawner, spawned⟩ absent
      have follows : Follows circle.deeds (.spawned ticket) :=
        .spawned ((standing present).admitted.mpr rfl) unspawned
      have moved : Stands (circle.deeds ++ [.spawned ticket]) ticket .started :=
        (standing present).proceed rfl nofun (by simp [Stand.isAdmitted]) (by simp)
          (by simp [Stand.hasRaised])
      exact recorded.advance follows rfl nofun (by simpa using moved) (by simp) (by simp)
  | turnAway ticket present found =>
      obtain ⟨handle, rfl⟩ := SupervisorCells.eq_of_spawnLoop_error found
      obtain ⟨spawner, spawned⟩ := recorded.loop.mp (by simp [handle])
      have admitted : .admitted ticket ∈ circle.deeds := (standing present).admitted.mpr rfl
      have apart : spawner ≠ ticket := by
        rintro rfl
        cases (standing present).spawned.mp spawned
      exact recorded.answer present (.secondStart admitted apart spawned) rfl rfl
  | start ticket present =>
      exact recorded.answer present (.started ((standing present).spawned.mpr rfl)) rfl rfl
  | raise ticket present raised =>
      obtain ⟨down, rfl⟩ := SupervisorCells.eq_of_raiseShutdown raised
      have follows : Follows circle.deeds (.raised ticket) :=
        .raised (standing present).asked (recorded.unraised down)
      have moved : Stands (circle.deeds ++ [.raised ticket]) ticket .ending :=
        (standing present).proceed rfl nofun (by simp [Stand.isAdmitted]) (by simp)
          (by simp [Stand.hasRaised])
      exact recorded.advance follows rfl nofun (by simpa using moved) (by simp) (by simp)
  | dismiss ticket present found =>
      obtain ⟨up, rfl⟩ := SupervisorCells.eq_of_raiseShutdown_error found
      obtain ⟨raiser, raised⟩ := recorded.flag.mp up
      have unheeded : .raised ticket ∉ circle.deeds := by
        simp [(standing present).raised, Stand.hasRaised]
      have apart : raiser ≠ ticket := by
        rintro rfl
        exact unheeded raised
      exact recorded.answer present
        (.secondShutdown (standing present).asked apart raised unheeded) rfl rfl
  | take ticket present free handle =>
      have moved : Stands circle.deeds ticket .awaiting :=
        (standing present).turn rfl rfl (by simp) rfl
      exact recorded.turn (by simpa using moved) (by simp) (by simp [handle])
  | miss ticket present free handle =>
      have moved : Stands circle.deeds ticket .closing :=
        (standing present).turn rfl rfl (by simp) rfl
      exact recorded.turn (by simpa using moved) rfl Iff.rfl
  | close ticket present =>
      have raised := (standing present).raised.mpr rfl
      exact recorded.answer present (.stopped raised) (by simp) (by simp)
  | join ticket present ended =>
      exact recorded.answer present (.stopped ((standing present).raised.mpr rfl)) rfl rfl
  | fail ticket present =>
      exact recorded.answer present (.broken ((standing present).raised.mpr rfl)) rfl rfl
  | drop ticket present => exact recorded.turn nofun rfl Iff.rfl

end Circle.IsRecorded

namespace Circle.IsOrderly

variable {plan : Plan} {circle after : Circle} {ticket : Nat}

theorem initial (plan : Plan) : ({} : Circle).IsOrderly plan where
  reached := .refl
  ahead := nofun
  ending := nofun
  closing := nofun
  barred := nofun
  settled := nofun

/-- A call moves on that does not rely on anything. -/
theorem shift (orderly : circle.IsOrderly plan) (run : after.run = circle.run)
    (calls : ∀ other stand, stand.relies = true → after.calls other = some stand →
      circle.calls other = some stand)
    (settled : ∀ ticket, .answered ticket .shutdown (.ok ()) ∈ after.deeds →
      circle.run.cells.state = .closed) : after.IsOrderly plan := by
  constructor
  · rw [run]
    exact orderly.reached
  · rw [run]
    intro other admitted
    exact orderly.ahead other (calls other _ rfl admitted)
  · rw [run]
    intro other ending
    exact orderly.ending other (calls other _ rfl ending)
  · rw [run]
    intro other closing
    exact orderly.closing other (calls other _ rfl closing)
  · rw [run]
    intro other admitted
    obtain ⟨unclosing, ends⟩ := orderly.barred other (calls other _ rfl admitted)
    exact ⟨fun one closing => unclosing one (calls one _ rfl closing), ends⟩
  · rw [run]
    exact settled

/-- A call is moved to a place where it does not rely on anything. -/
theorem move {stand? : Option Stand} {deeds : List Deed} (orderly : circle.IsOrderly plan)
    (plain : ∀ stand, stand? = some stand → stand.relies = false)
    (settled : ∀ ticket, .answered ticket .shutdown (.ok ()) ∈ deeds →
      circle.run.cells.state = .closed) :
    ({ circle.move ticket stand? with deeds } : Circle).IsOrderly plan := by
  refine orderly.shift rfl ?_ settled
  intro other stand relies present
  have present : (circle.move ticket stand?).calls other = some stand := present
  rcases Circle.placed_or_stood present with ⟨-, placed⟩ | ⟨-, stood⟩
  · cases (plain stand placed).symm.trans relies
  · exact stood

theorem answer {wish : Wish} {result : Except ClientError Unit}
    (orderly : circle.IsOrderly plan)
    (settled : wish = .shutdown → result = .ok () → circle.run.cells.state = .closed) :
    (circle.answer ticket wish result).IsOrderly plan := by
  refine orderly.move nofun ?_
  intro other told
  rcases List.mem_append.mp told with former | last
  · exact orderly.settled other former
  · cases List.mem_singleton.mp last
    exact settled rfl rfl

theorem around {run : Run} (orderly : circle.IsOrderly plan)
    (step : Supervisor.Step plan circle.run run) (leaves : LeavesOwners circle.run run) :
    (circle.setRun run).IsOrderly plan := by
  constructor
  · exact orderly.reached.tail step
  · intro other admitted absent
    have unspawned : circle.run.cells.handle = .absent := leaves.handle.symm.trans absent
    exact (orderly.ahead other admitted unspawned).tail
      (Run.step_withLoop (Run.isCoherent_of_reachable orderly.reached) unspawned step leaves)
  · intro other ending
    exact leaves.isEnding.trans (orderly.ending other ending)
  · intro other closing
    obtain ⟨ending, unfound⟩ := orderly.closing other closing
    exact ⟨leaves.isEnding.trans ending, fun found => unfound (leaves.handle.symm.trans found)⟩
  · intro other admitted
    obtain ⟨unclosing, ends⟩ := orderly.barred other admitted
    refine ⟨unclosing, fun isShutDown => ?_⟩
    exact leaves.isEnding.trans (ends (leaves.isShutDown.symm.trans isShutDown))
  · intro other told
    have closed := orderly.settled other told
    have same := (Run.keepsOrder_of_reachable orderly.reached).ends closed run step
    have last : [run.cells.state] = [circle.run.cells.state] := (List.append_inj' same rfl).2
    exact (List.singleton_inj.mp last).trans closed

theorem grant (orderly : circle.IsOrderly plan) (recorded : circle.IsRecorded)
    (looked : circle.run.cells.admitStart = .ok ()) :
    ((circle.note (.admitted ticket)).move ticket (some .admitted)).IsOrderly plan := by
  have down := SupervisorCells.isShutDown_of_admitStart looked
  constructor
  · exact orderly.reached
  · intro other admitted absent
    have started : circle.run.cells.start = .ok { circle.run.cells with handle := .present } := by
      simp [SupervisorCells.start, down, show circle.run.cells.handle = .absent from absent]
    exact orderly.reached.tail (.start started)
  · intro other ending
    exact orderly.ending other (Circle.stood_of_move ending (by decide))
  · intro other closing
    exact orderly.closing other (Circle.stood_of_move closing (by decide))
  · intro other admitted
    refine ⟨fun one closing => ?_, fun isShutDown => ?_⟩
    · have stood := Circle.stood_of_move closing (by decide)
      exact recorded.unraised down one ((recorded.stands one _ stood).raised.mpr rfl)
    · cases down.symm.trans isShutDown
  · intro other told
    exact orderly.settled other (by simpa [Circle.move, Circle.note] using told)

theorem spawn {cells : SupervisorCells} (orderly : circle.IsOrderly plan)
    (present : circle.calls ticket = some .admitted)
    (spawned : circle.run.cells.spawnLoop = .ok cells) :
    (((circle.note (.spawned ticket)).move ticket (some .started)).setRun
      { circle.run with cells }).IsOrderly plan := by
  have absent := orderly.absent present spawned
  obtain ⟨-, rfl⟩ := SupervisorCells.eq_of_spawnLoop spawned
  constructor
  · exact orderly.ahead ticket present absent
  · intro other admitted unspawned
    cases unspawned
  · intro other ending
    exact orderly.ending other (Circle.stood_of_move ending (by decide))
  · intro other closing
    exact absurd (Circle.stood_of_move closing (by decide)) ((orderly.barred ticket present).1 other)
  · intro other admitted
    obtain ⟨unclosing, ends⟩ := orderly.barred other (Circle.stood_of_move admitted (by decide))
    exact ⟨fun one closing => unclosing one (Circle.stood_of_move closing (by decide)), ends⟩
  · intro other told
    exact orderly.settled other (by simpa [Circle.setRun, Circle.move, Circle.note] using told)

theorem raise {cells : SupervisorCells} (orderly : circle.IsOrderly plan)
    (raised : circle.run.cells.raiseShutdown = .ok cells) :
    (((circle.note (.raised ticket)).move ticket (some .ending)).setRun
      { circle.run with cells, isEnding := true }).IsOrderly plan := by
  have reached := orderly.reached.tail (.raise raised)
  obtain ⟨down, rfl⟩ := SupervisorCells.eq_of_raiseShutdown raised
  constructor
  · exact reached
  · intro other admitted absent
    have raisedToo : circle.run.withLoop.cells.raiseShutdown =
        .ok { circle.run.withLoop.cells with isShutDown := true } := by
      simp [SupervisorCells.raiseShutdown, Run.withLoop, down]
    have ahead := orderly.ahead other (Circle.stood_of_move admitted (by decide)) absent
    exact ahead.tail (.raise raisedToo)
  · intro other ending
    rfl
  · intro other closing
    exact ⟨rfl, (orderly.closing other (Circle.stood_of_move closing (by decide))).2⟩
  · intro other admitted
    obtain ⟨unclosing, -⟩ := orderly.barred other (Circle.stood_of_move admitted (by decide))
    exact ⟨fun one closing => unclosing one (Circle.stood_of_move closing (by decide)), fun _ => rfl⟩
  · intro other told
    exact orderly.settled other (by simpa [Circle.setRun, Circle.move, Circle.note] using told)

theorem miss (orderly : circle.IsOrderly plan) (present : circle.calls ticket = some .ending)
    (unadmitted : ∀ other, circle.calls other ≠ some .admitted)
    (unfound : circle.run.cells.handle ≠ .present) :
    (circle.move ticket (some .closing)).IsOrderly plan := by
  have ending := orderly.ending ticket present
  constructor
  · exact orderly.reached
  · intro other admitted
    exact absurd (Circle.stood_of_move admitted (by decide)) (unadmitted other)
  · intro other _
    exact ending
  · intro other _
    exact ⟨ending, unfound⟩
  · intro other admitted
    exact absurd (Circle.stood_of_move admitted (by decide)) (unadmitted other)
  · exact orderly.settled

/-- Once the first shutdown has come to the handle, no call relies on anything. -/
theorem release {stand : Stand} {stand? : Option Stand} {deeds : List Deed} {run : Run}
    (recorded : circle.IsRecorded)
    (present : circle.calls ticket = some stand) (raised : stand.hasRaised = true)
    (unadmitted : ∀ other, circle.calls other ≠ some .admitted)
    (plain : ∀ stand, stand? = some stand → stand.relies = false)
    (reached : Supervisor.Reachable plan run)
    (settled : ∀ ticket, .answered ticket .shutdown (.ok ()) ∈ deeds →
      run.cells.state = .closed) :
    ({ circle.move ticket stand? with deeds, run } : Circle).IsOrderly plan := by
  have moved {other : Nat} {stand : Stand} (relies : stand.relies = true)
      (present : (circle.move ticket stand?).calls other = some stand) :
      other ≠ ticket ∧ circle.calls other = some stand := by
    rcases Circle.placed_or_stood present with ⟨-, placed⟩ | stood
    · cases (plain stand placed).symm.trans relies
    · exact stood
  constructor
  · exact reached
  · intro other admitted
    exact absurd (moved rfl admitted).2 (unadmitted other)
  · intro other ending
    obtain ⟨apart, stood⟩ := moved rfl ending
    exact absurd (recorded.eq_of_raised stood present rfl raised) apart
  · intro other closing
    obtain ⟨apart, stood⟩ := moved rfl closing
    exact absurd (recorded.eq_of_raised stood present rfl raised) apart
  · intro other admitted
    exact absurd (moved rfl admitted).2 (unadmitted other)
  · exact settled

theorem step (orderly : circle.IsOrderly plan) (recorded : circle.IsRecorded)
    (step : Step plan circle after) : after.IsOrderly plan := by
  have coherent := Run.isCoherent_of_reachable orderly.reached
  have unadmitted (free : circle.IsFree) (other : Nat) :
      circle.calls other ≠ some .admitted := by
    intro admitted
    cases free other _ admitted
  cases step with
  | around step leaves => exact orderly.around step leaves
  | arrive wish =>
      refine orderly.shift rfl ?_ ?_
      · intro other stand relies present
        refine Circle.stood_of_move present ?_
        rintro ⟨⟩
        cases wish <;> cases relies
      · intro other told
        exact orderly.settled other (by simpa [Circle.welcome, Circle.move, Circle.note] using told)
  | lock ticket present free =>
      refine orderly.move ?_ orderly.settled
      rintro _ ⟨⟩
      rfl
  | grant ticket present looked => exact orderly.grant recorded looked
  | refuse ticket present looked => exact orderly.answer nofun
  | spawn ticket present spawned => exact orderly.spawn present spawned
  | turnAway ticket present found => exact orderly.answer nofun
  | start ticket present => exact orderly.answer nofun
  | raise ticket present raised => exact orderly.raise raised
  | dismiss ticket present found => exact orderly.answer nofun
  | take ticket present free handle =>
      have taken := orderly.reached.tail (.take (orderly.ending _ present))
      rw [SupervisorCells.takeHandle_of_present handle] at taken
      refine release recorded present rfl (unadmitted free) ?_ taken ?_
      · rintro _ ⟨⟩
        rfl
      · intro other told
        simpa using orderly.settled other told
  | miss ticket present free unfound => exact orderly.miss present (unadmitted free) unfound
  | close ticket present =>
      obtain ⟨ending, unfound⟩ := orderly.closing ticket present
      have taken := orderly.reached.tail (.take ending)
      rw [SupervisorCells.takeHandle_of_ne_present unfound] at taken
      have unadmitted (other : Nat) : circle.calls other ≠ some .admitted := by
        intro admitted
        exact (orderly.barred other admitted).1 ticket present
      have closed (deeds : List Deed) : ({ circle.move ticket none with
            deeds
            run :=
              { circle.run.setCells circle.run.cells.closeUnstarted with
                isEnding := false } } : Circle).IsOrderly plan :=
        release recorded present rfl unadmitted nofun taken (by simp)
      exact closed _
  | join ticket present ended =>
      refine orderly.answer fun _ _ => ?_
      have fits := (Run.isStaged_of_reachable orderly.reached).fits
      rwa [ended] at fits
  | fail ticket present => exact orderly.answer nofun
  | drop ticket present => exact orderly.move nofun orderly.settled

end Circle.IsOrderly

/-! ## All lives -/

theorem isKept_of_reachable {plan : Plan} {circle : Circle} (reached : Reachable plan circle) :
    circle.IsOrderly plan ∧ circle.IsRecorded := by
  induction reached with
  | refl => exact ⟨.initial plan, .initial⟩
  | tail _ step ih =>
      obtain ⟨orderly, recorded⟩ := ih
      exact ⟨orderly.step recorded step, recorded.step orderly step⟩

namespace Story

variable {deeds early late : List Deed} {ticket raiser : Nat} {wish : Wish}
  {result : Except ClientError Unit}

/-- A start is told of a shutdown, or has seen that there was none. -/
theorem exists_look (story : Story deeds) (answered : .answered ticket .start result ∈ deeds)
    (other : result ≠ .error .alreadyClosed) :
    ∃ early late, deeds = early ++ .admitted ticket :: late ∧
      ∀ raiser, .raised raiser ∉ early := by
  obtain ⟨before, after, split, follows⟩ := story.exists_follows answered
  have told : Story before := story.of_append split
  have admitted : .admitted ticket ∈ before := by
    cases follows with
    | answered unanswered due =>
        cases due with
        | started spawned => exact told.admitted_of_spawned spawned
        | lateStart asked raised barred => exact absurd rfl other
        | secondStart admitted apart spawned => exact admitted
  obtain ⟨early, late, again, follows⟩ :=
    story.exists_follows (split ▸ List.mem_append_left _ admitted)
  cases follows with
  | admitted asked down => exact ⟨early, late, again, down⟩

/-- A start that begins after the flag was raised sees it. -/
theorem eq_alreadyClosed (story : Story deeds) (split : deeds = early ++ .raised raiser :: late)
    (began : .began ticket .start ∈ late) (answered : .answered ticket .start result ∈ deeds) :
    result = .error .alreadyClosed := by
  by_contra other
  obtain ⟨before, after, again, down⟩ := story.exists_look answered other
  cases story.follows again with
  | admitted asked _ =>
      have told : early ++ .raised raiser :: late = before ++ .admitted ticket :: after :=
        split.symm.trans again
      rcases List.append_eq_append_iff.mp told with ⟨more, rfl, rest⟩ | ⟨more, rfl, rest⟩
      · cases more with
        | nil => cases rest
        | cons head more =>
            cases rest
            exact down raiser (by simp)
      · obtain ⟨front, back, rfl⟩ := List.append_of_mem began
        have twice : deeds =
            (before ++ more ++ .raised raiser :: front) ++ .began ticket .start :: back := by
          simp [split]
        cases story.follows twice with
        | began fresh => exact fresh .start (by simp [asked])

/-- Exactly the shutdown that has raised the flag is not told that it came too late. -/
theorem alreadyClosed_iff (story : Story deeds)
    (answered : .answered ticket .shutdown result ∈ deeds) :
    result = .error .alreadyClosed ↔ .raised ticket ∉ deeds := by
  obtain ⟨before, after, rfl, follows⟩ := story.exists_follows answered
  cases follows with
  | answered unanswered due =>
      cases due with
      | stopped raised | broken raised => simp [raised]
      | secondShutdown asked apart raised unheeded =>
          refine iff_of_true rfl fun also => apart ?_
          exact story.eq_of_raised (List.mem_append_left _ raised) also

end Story

end Owners

namespace Run

variable {plan : Plan} {run : Run}

/-- A loop was spawned and has not come to its end. -/
def HasLoop (run : Run) : Prop :=
  run.cells.handle ≠ .absent ∧ run.point ≠ .closed

private theorem not_hasLoop_of_closed (reached : Reachable plan run)
    (closed : run.cells.state = .closed) :
    ¬ run.HasLoop := by
  rintro ⟨started, unfinished⟩
  have fits := (isStaged_of_reachable reached).fits
  have fresh := isFresh_of_reachable reached
  cases point : run.point with
  | entry =>
      have disconnected := fresh.disconnected point (.inl started)
      cases closed.symm.trans disconnected
  | releaseChannel _ _ goal _ | releaseConnection _ goal _ =>
      rw [point, closed] at fits
      cases goal <;> simp [Point.FitsState, Goal.FitsState] at fits
  | dial | dialPause | setup | setupPause | ready =>
      rw [point, closed] at fits
      cases fits
  | closed => exact unfinished point

private theorem session_of_closed (reached : Reachable plan run)
    (closed : run.cells.state = .closed) :
    run.cells.session = none := by
  by_contra filled
  cases closed.symm.trans (state_of_session reached filled)

end Run

namespace Owners

variable {plan : Plan} {circle : Circle}

/-- What all owners together bring about, whatever they call and in whatever order. -/
structure Circle.LivesOnce (circle : Circle) : Prop where
  spawns : circle.deeds.countP Deed.isSpawn ≤ 1
  loop : circle.run.cells.handle ≠ .absent ↔ ∃ ticket, .spawned ticket ∈ circle.deeds
  starts : circle.deeds.countP Deed.isStarted ≤ 1
  raises : circle.deeds.countP Deed.isRaise ≤ 1
  /-- Every answer fits what was done before it. -/
  answers : ∀ early late ticket wish result,
    circle.deeds = early ++ .answered ticket wish result :: late → Due early ticket wish result
  /-- A start that is not refused for a shutdown has seen the flag down. -/
  looked : ∀ ticket result, .answered ticket .start result ∈ circle.deeds →
    result ≠ .error .alreadyClosed → ∃ early late,
      circle.deeds = early ++ .admitted ticket :: late ∧ ∀ raiser, .raised raiser ∉ early
  lateStarts : ∀ early late raiser ticket result,
    circle.deeds = early ++ .raised raiser :: late → .began ticket .start ∈ late →
      .answered ticket .start result ∈ circle.deeds → result = .error .alreadyClosed
  shutdowns : ∀ ticket result, .answered ticket .shutdown result ∈ circle.deeds →
    (result = .error .alreadyClosed ↔ .raised ticket ∉ circle.deeds)
  ended : ∀ ticket, .answered ticket .shutdown (.ok ()) ∈ circle.deeds →
    circle.run.cells.state = .closed ∧ circle.run.cells.session = none ∧
      ¬ circle.run.HasLoop

theorem livesOnce_of_reachable (reached : Reachable plan circle) : circle.LivesOnce := by
  obtain ⟨orderly, recorded⟩ := isKept_of_reachable reached
  have story := recorded.story
  constructor
  · exact story.countP_isSpawn
  · exact recorded.loop
  · exact story.countP_isStarted
  · exact story.countP_isRaise
  · intro early late ticket wish result split
    cases story.follows split with
    | answered unanswered due => exact due
  · intro ticket result
    exact story.exists_look
  · intro early late raiser ticket result split
    exact story.eq_alreadyClosed split
  · intro ticket result
    exact story.alreadyClosed_iff
  · intro ticket told
    have closed := orderly.settled ticket told
    exact ⟨closed, Run.session_of_closed orderly.reached closed,
      Run.not_hasLoop_of_closed orderly.reached closed⟩

private theorem isFree_of_all (reached : Reachable plan circle)
    (all : ∀ ticket < circle.arrivals, (circle.calls ticket).all (!·.locks) = true) :
    circle.IsFree := by
  intro ticket stand present
  have recorded := (isKept_of_reachable reached).2
  have known := recorded.known ticket _ (recorded.stands ticket stand present).asked
  simpa [present] using all ticket known

/-- Two starts and two shutdowns meet. The first start has seen the flag down when it is
raised, and spawns the loop all the same. -/
theorem exists_raced :
    ∃ circle, Reachable oneQueue circle ∧
      circle.deeds =
        [.began 0 .start, .began 1 .shutdown, .began 2 .start, .began 3 .shutdown, .admitted 0,
          .raised 1, .answered 3 .shutdown (.error .alreadyClosed), .spawned 0,
          .answered 0 .start (.ok ()), .answered 2 .start (.error .alreadyClosed),
          .answered 1 .shutdown (.ok ())] := by
  have first : Step oneQueue {} _ := .arrive {} .start
  have arrived := (((Relation.ReflTransGen.single first).tail (.arrive _ .shutdown)).tail
    (.arrive _ .start)).tail (.arrive _ .shutdown)
  have locked := arrived.tail (.lock 0 rfl (isFree_of_all arrived (by decide)))
  have admitted := locked.tail (.grant 0 rfl rfl)
  have raised := admitted.tail (.raise 1 rfl rfl)
  have dismissed := raised.tail (.dismiss 3 rfl rfl)
  have spawned := dismissed.tail (.spawn 0 rfl rfl)
  have started := spawned.tail (.start 0 rfl)
  have lockedAgain := started.tail (.lock 2 rfl (isFree_of_all started (by decide)))
  have refused := lockedAgain.tail (.refuse 2 rfl rfl)
  have taken := refused.tail (.take 1 rfl (isFree_of_all refused (by decide)) rfl)
  have ended := taken.tail (.around (.look (by decide) rfl rfl) ⟨rfl, rfl, rfl⟩)
  exact ⟨_, ended.tail (.join 1 rfl rfl), rfl⟩

theorem livesOnce_raced :
    ∃ circle, Reachable oneQueue circle ∧
      .answered 1 .shutdown (.ok ()) ∈ circle.deeds ∧ circle.LivesOnce := by
  obtain ⟨circle, reached, deeds⟩ := exists_raced
  exact ⟨circle, reached, by simp [deeds], livesOnce_of_reachable reached⟩

/-- No start returns without an error once a shutdown has been requested. -/
def Circle.StartsInTime (circle : Circle) : Prop :=
  ∀ early late raiser ticket,
    circle.deeds = early ++ .raised raiser :: late → .answered ticket .start (.ok ()) ∉ late

/-- A start that has looked before the request returns after it. -/
theorem not_startsInTime_raced : ¬ ∀ circle, Reachable oneQueue circle → circle.StartsInTime := by
  intro inTime
  obtain ⟨circle, reached, deeds⟩ := exists_raced
  apply inTime circle reached
    [.began 0 .start, .began 1 .shutdown, .began 2 .start, .began 3 .shutdown, .admitted 0] _ 1 0
    deeds
  simp

end Owners

end AmqpClient.Supervisor
