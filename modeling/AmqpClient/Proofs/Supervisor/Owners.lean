import AmqpClient.Proofs.Supervisor.Reconnect
import Mathlib.Data.List.Induction
import Mathlib.Logic.Function.Basic

/-!
# The owners of a supervisor

Any number of owners hold copies of one supervisor, and each may start its loop or shut
it down at any time. The cells are shared, so it does not matter which copy a call is
made on; calls are told apart by the tickets they draw.

A start keeps the loop's handle to itself from its look at the shutdown flag until it is
over. A shutdown raises the flag without the handle, and takes the handle afterwards. So a
start may still spawn the loop when the flag is up that it has seen down. All that the
calls do, down to a single look or write, is put down in the order in which it is done.
-/

set_option autoImplicit false

namespace AmqpClient

/-! ## The parts of a start and of a shutdown -/

namespace SupervisorCells

variable {cells after : SupervisorCells} {error : ClientError}

/-- The first half of a start: the flag is looked at. -/
def admitStart (cells : SupervisorCells) : Except ClientError Unit :=
  if cells.isShutDown then .error .alreadyClosed else .ok ()

/-- The second half: a loop is spawned, unless the handle of one is there. -/
def spawnLoop (cells : SupervisorCells) : Except ClientError SupervisorCells :=
  if cells.handle = .present then .error .alreadyStarted
  else .ok { cells with handle := .present }

/-- What a shutdown does that has found no handle. -/
def closeUnstarted (cells : SupervisorCells) : SupervisorCells :=
  ((cells.setState .closing).setSession none).setState .closed

@[simp] theorem state_closeUnstarted (cells : SupervisorCells) :
    cells.closeUnstarted.state = .closed := rfl

@[simp] theorem isShutDown_closeUnstarted (cells : SupervisorCells) :
    cells.closeUnstarted.isShutDown = cells.isShutDown := rfl

@[simp] theorem handle_closeUnstarted (cells : SupervisorCells) :
    cells.closeUnstarted.handle = cells.handle := rfl

theorem start_eq (cells : SupervisorCells) :
    cells.start = cells.admitStart.bind fun _ => cells.spawnLoop := by
  unfold start admitStart
  split
  · rfl
  · rfl

theorem takeHandle_of_ne_present (unfound : cells.handle ≠ .present) :
    cells.takeHandle = cells.closeUnstarted := by
  unfold takeHandle
  cases handle : cells.handle with
  | present => exact absurd handle unfound
  | absent | taken => rfl

theorem isShutDown_of_admitStart (admitted : cells.admitStart = .ok ()) :
    cells.isShutDown = false := by
  cases flag : cells.isShutDown with
  | false => rfl
  | true => simp [admitStart, flag] at admitted

theorem eq_of_admitStart_error (refused : cells.admitStart = .error error) :
    cells.isShutDown = true ∧ error = .alreadyClosed := by
  cases flag : cells.isShutDown with
  | false => simp [admitStart, flag] at refused
  | true => simpa [admitStart, flag, eq_comm] using refused

theorem eq_of_spawnLoop (spawned : cells.spawnLoop = .ok after) :
    cells.handle ≠ .present ∧ after = { cells with handle := .present } := by
  unfold spawnLoop at spawned
  split at spawned
  · cases spawned
  · next unfound =>
    cases spawned
    exact ⟨unfound, rfl⟩

theorem eq_of_spawnLoop_error (refused : cells.spawnLoop = .error error) :
    cells.handle = .present ∧ error = .alreadyStarted := by
  unfold spawnLoop at refused
  split at refused
  · next found =>
    cases refused
    exact ⟨found, rfl⟩
  · cases refused

theorem eq_of_raiseShutdown_error (refused : cells.raiseShutdown = .error error) :
    cells.isShutDown = true ∧ error = .alreadyClosed := by
  cases flag : cells.isShutDown with
  | false => simp [raiseShutdown, flag] at refused
  | true => simpa [raiseShutdown, flag, eq_comm] using refused

end SupervisorCells

namespace Supervisor.Owners

/-! ## Calls and what they do -/

inductive Wish where
  | start
  | shutdown
  deriving DecidableEq, Repr

inductive Stand where
  | starting
  /-- The start has the handle to itself. -/
  | holding
  /-- It has seen that the flag is down. -/
  | admitted
  /-- It has spawned the loop. -/
  | started
  | stopping
  /-- The shutdown has raised the flag and is to take the handle. -/
  | ending
  /-- It has taken the handle and waits for the loop's end. -/
  | awaiting
  /-- It has found no handle and is to close the supervisor itself. -/
  | closing
  deriving DecidableEq, Repr

namespace Stand

/-- Whether the handle is kept from all other calls. -/
def locks : Stand → Bool
  | .holding | .admitted | .started => true
  | .starting | .stopping | .ending | .awaiting | .closing => false

def wish : Stand → Wish
  | .starting | .holding | .admitted | .started => .start
  | .stopping | .ending | .awaiting | .closing => .shutdown

def isAdmitted : Stand → Bool
  | .admitted | .started => true
  | .starting | .holding | .stopping | .ending | .awaiting | .closing => false

def hasRaised : Stand → Bool
  | .ending | .awaiting | .closing => true
  | .starting | .holding | .admitted | .started | .stopping => false

/-- Whether the call relies, in what it does next, on what it has seen or done before. -/
def relies : Stand → Bool
  | .admitted | .ending | .closing => true
  | .starting | .holding | .started | .stopping | .awaiting => false

end Stand

def Wish.stand : Wish → Stand
  | .start => .starting
  | .shutdown => .stopping

inductive Deed where
  | began (ticket : Nat) (wish : Wish)
  | admitted (ticket : Nat)
  | spawned (ticket : Nat)
  | raised (ticket : Nat)
  | answered (ticket : Nat) (wish : Wish) (result : Except ClientError Unit)

namespace Deed

def ticket : Deed → Nat
  | .began ticket _ | .admitted ticket | .spawned ticket | .raised ticket
  | .answered ticket _ _ => ticket

def isSpawn : Deed → Bool
  | .spawned _ => true
  | .began .. | .admitted _ | .raised _ | .answered .. => false

def isRaise : Deed → Bool
  | .raised _ => true
  | .began .. | .admitted _ | .spawned _ | .answered .. => false

def isStarted : Deed → Bool
  | .answered _ .start (.ok ()) => true
  | _ => false

end Deed

/-- A supervisor and the calls that its owners have made so far. -/
structure Circle where
  run : Run := {}
  calls : Nat → Option Stand := fun _ => none
  arrivals : Nat := 0
  deeds : List Deed := []

namespace Circle

def move (ticket : Nat) (stand? : Option Stand) (circle : Circle) : Circle :=
  { circle with calls := Function.update circle.calls ticket stand? }

def note (deed : Deed) (circle : Circle) : Circle :=
  { circle with deeds := circle.deeds ++ [deed] }

def setRun (run : Run) (circle : Circle) : Circle :=
  { circle with run }

def welcome (wish : Wish) (circle : Circle) : Circle :=
  { (circle.note (.began circle.arrivals wish)).move circle.arrivals (some wish.stand) with
    arrivals := circle.arrivals + 1 }

def answer (ticket : Nat) (wish : Wish) (result : Except ClientError Unit) (circle : Circle) :
    Circle :=
  (circle.note (.answered ticket wish result)).move ticket none

/-- No start has the handle to itself. -/
def IsFree (circle : Circle) : Prop :=
  ∀ ticket stand, circle.calls ticket = some stand → stand.locks = false

@[simp] theorem run_note (deed : Deed) (circle : Circle) :
    (circle.note deed).run = circle.run := rfl

private theorem calls_move (ticket other : Nat) (stand? : Option Stand) (circle : Circle) :
    (circle.move ticket stand?).calls other =
      if other = ticket then stand? else circle.calls other :=
  Function.update_apply _ _ _ _

theorem placed_or_stood {ticket other : Nat} {stand? : Option Stand} {stand : Stand}
    {circle : Circle} (present : (circle.move ticket stand?).calls other = some stand) :
    other = ticket ∧ stand? = some stand ∨ other ≠ ticket ∧ circle.calls other = some stand := by
  rw [calls_move] at present
  split at present
  · next same => exact .inl ⟨same, present⟩
  · next apart => exact .inr ⟨apart, present⟩

theorem stood_of_move {ticket other : Nat} {stand? : Option Stand} {stand : Stand}
    {circle : Circle} (present : (circle.move ticket stand?).calls other = some stand)
    (apart : stand? ≠ some stand) : circle.calls other = some stand := by
  rcases placed_or_stood present with ⟨-, placed⟩ | ⟨-, stood⟩
  · exact absurd placed apart
  · exact stood

end Circle

/-! ## Steps -/

/-- What no owner has done leaves alone what only owners change. -/
structure LeavesOwners (before after : Run) : Prop where
  handle : after.cells.handle = before.cells.handle
  isShutDown : after.cells.isShutDown = before.cells.isShutDown
  isEnding : after.isEnding = before.isEnding

inductive Step (plan : Plan) : Circle → Circle → Prop where
  /-- The loop, the broker, and callers who want no more than a session go on. -/
  | around {circle : Circle} {run : Run} :
      Supervisor.Step plan circle.run run → LeavesOwners circle.run run →
      Step plan circle (circle.setRun run)
  | arrive (circle : Circle) (wish : Wish) : Step plan circle (circle.welcome wish)
  | lock {circle : Circle} (ticket : Nat) :
      circle.calls ticket = some .starting → circle.IsFree →
      Step plan circle (circle.move ticket (some .holding))
  | grant {circle : Circle} (ticket : Nat) :
      circle.calls ticket = some .holding → circle.run.cells.admitStart = .ok () →
      Step plan circle ((circle.note (.admitted ticket)).move ticket (some .admitted))
  | refuse {circle : Circle} (ticket : Nat) {error : ClientError} :
      circle.calls ticket = some .holding → circle.run.cells.admitStart = .error error →
      Step plan circle (circle.answer ticket .start (.error error))
  | spawn {circle : Circle} (ticket : Nat) {cells : SupervisorCells} :
      circle.calls ticket = some .admitted → circle.run.cells.spawnLoop = .ok cells →
      Step plan circle
        (((circle.note (.spawned ticket)).move ticket (some .started)).setRun
          { circle.run with cells })
  | turnAway {circle : Circle} (ticket : Nat) {error : ClientError} :
      circle.calls ticket = some .admitted → circle.run.cells.spawnLoop = .error error →
      Step plan circle (circle.answer ticket .start (.error error))
  | start {circle : Circle} (ticket : Nat) :
      circle.calls ticket = some .started →
      Step plan circle (circle.answer ticket .start (.ok ()))
  | raise {circle : Circle} (ticket : Nat) {cells : SupervisorCells} :
      circle.calls ticket = some .stopping → circle.run.cells.raiseShutdown = .ok cells →
      Step plan circle
        (((circle.note (.raised ticket)).move ticket (some .ending)).setRun
          { circle.run with cells, isEnding := true })
  | dismiss {circle : Circle} (ticket : Nat) {error : ClientError} :
      circle.calls ticket = some .stopping → circle.run.cells.raiseShutdown = .error error →
      Step plan circle (circle.answer ticket .shutdown (.error error))
  | take {circle : Circle} (ticket : Nat) :
      circle.calls ticket = some .ending → circle.IsFree →
      circle.run.cells.handle = .present →
      Step plan circle
        ((circle.move ticket (some .awaiting)).setRun
          { circle.run.setCells { circle.run.cells with handle := .taken } with
            isEnding := false })
  | miss {circle : Circle} (ticket : Nat) :
      circle.calls ticket = some .ending → circle.IsFree →
      circle.run.cells.handle ≠ .present →
      Step plan circle (circle.move ticket (some .closing))
  /-- Nobody else writes to the cells by then, so the writes are one step. -/
  | close {circle : Circle} (ticket : Nat) :
      circle.calls ticket = some .closing →
      Step plan circle
        ((circle.answer ticket .shutdown (.ok ())).setRun
          { circle.run.setCells circle.run.cells.closeUnstarted with isEnding := false })
  | join {circle : Circle} (ticket : Nat) :
      circle.calls ticket = some .awaiting → circle.run.point = .closed →
      Step plan circle (circle.answer ticket .shutdown (.ok ()))
  /-- The loop's task has broken off. -/
  | fail {circle : Circle} (ticket : Nat) :
      circle.calls ticket = some .awaiting →
      Step plan circle (circle.answer ticket .shutdown (.error .internal))
  /-- The shutdown is given up. The loop goes on to its end all the same. -/
  | drop {circle : Circle} (ticket : Nat) :
      circle.calls ticket = some .awaiting → Step plan circle (circle.move ticket none)

def Reachable (plan : Plan) (circle : Circle) : Prop :=
  Relation.ReflTransGen (Step plan) {} circle

/-! ## The story of all calls -/

/-- What an answer tells of what was done before it. -/
inductive Due (before : List Deed) (ticket : Nat) : Wish → Except ClientError Unit → Prop where
  | started (spawned : .spawned ticket ∈ before) : Due before ticket .start (.ok ())
  | lateStart {raiser : Nat} (asked : .began ticket .start ∈ before)
      (raised : .raised raiser ∈ before) (barred : .admitted ticket ∉ before) :
      Due before ticket .start (.error .alreadyClosed)
  | secondStart {other : Nat} (admitted : .admitted ticket ∈ before) (apart : other ≠ ticket)
      (spawned : .spawned other ∈ before) : Due before ticket .start (.error .alreadyStarted)
  | stopped (raised : .raised ticket ∈ before) : Due before ticket .shutdown (.ok ())
  | broken (raised : .raised ticket ∈ before) :
      Due before ticket .shutdown (.error .internal)
  | secondShutdown {raiser : Nat} (asked : .began ticket .shutdown ∈ before)
      (apart : raiser ≠ ticket) (raised : .raised raiser ∈ before)
      (unheeded : .raised ticket ∉ before) :
      Due before ticket .shutdown (.error .alreadyClosed)

/-- What may be done next. -/
inductive Follows (before : List Deed) : Deed → Prop where
  | began {ticket : Nat} {wish : Wish} (fresh : ∀ other, .began ticket other ∉ before) :
      Follows before (.began ticket wish)
  | admitted {ticket : Nat} (asked : .began ticket .start ∈ before)
      (down : ∀ raiser, .raised raiser ∉ before) : Follows before (.admitted ticket)
  | spawned {ticket : Nat} (admitted : .admitted ticket ∈ before)
      (first : ∀ other, .spawned other ∉ before) : Follows before (.spawned ticket)
  | raised {ticket : Nat} (asked : .began ticket .shutdown ∈ before)
      (first : ∀ other, .raised other ∉ before) : Follows before (.raised ticket)
  | answered {ticket : Nat} {wish : Wish} {result : Except ClientError Unit}
      (unanswered : ∀ wish result, .answered ticket wish result ∉ before)
      (due : Due before ticket wish result) : Follows before (.answered ticket wish result)

inductive Story : List Deed → Prop where
  | nil : Story []
  | tell {told : List Deed} {deed : Deed} (story : Story told) (follows : Follows told deed) :
      Story (told ++ [deed])

private theorem eq_of_countP_le_one {deeds : List Deed} {kind : Deed → Bool} {one two : Deed}
    (once : deeds.countP kind ≤ 1) (early : one ∈ deeds) (late : two ∈ deeds)
    (first : kind one = true) (second : kind two = true) : one = two := by
  rw [List.countP_eq_length_filter] at once
  have one_mem : one ∈ deeds.filter kind := List.mem_filter.mpr ⟨early, first⟩
  have two_mem : two ∈ deeds.filter kind := List.mem_filter.mpr ⟨late, second⟩
  match found : deeds.filter kind with
  | [] => simp [found] at one_mem
  | [only] =>
      rw [found, List.mem_singleton] at one_mem two_mem
      rw [one_mem, two_mem]
  | _ :: _ :: _ => simp [found] at once

namespace Story

variable {deeds early late : List Deed} {deed : Deed} {ticket other : Nat}

theorem of_append (story : Story deeds) (split : deeds = early ++ late) : Story early := by
  induction story generalizing early late with
  | nil =>
      obtain ⟨rfl, -⟩ := List.append_eq_nil_iff.mp split.symm
      exact .nil
  | @tell told last story follows ih =>
      rcases List.eq_nil_or_concat late with rfl | ⟨rest, final, rfl⟩
      · rw [List.append_nil] at split
        exact split ▸ .tell story follows
      · rw [List.concat_eq_append, ← List.append_assoc] at split
        exact ih (List.append_inj_left' split rfl)

theorem follows (story : Story deeds) (split : deeds = early ++ deed :: late) :
    Follows early deed := by
  have longer : deeds = (early ++ [deed]) ++ late := by simp [split]
  have told : Story (early ++ [deed]) := story.of_append longer
  generalize same : early ++ [deed] = whole at told
  cases told with
  | nil => exact absurd same (by simp)
  | tell story follows =>
      obtain ⟨rfl, last⟩ := List.append_inj' same rfl
      cases last
      exact follows

/-- Whatever is done was done after what it follows from. -/
theorem exists_follows (story : Story deeds) (done : deed ∈ deeds) :
    ∃ early late, deeds = early ++ deed :: late ∧ Follows early deed := by
  obtain ⟨early, late, split⟩ := List.append_of_mem done
  exact ⟨early, late, split, story.follows split⟩

theorem admitted_of_spawned (story : Story deeds) (spawned : .spawned ticket ∈ deeds) :
    .admitted ticket ∈ deeds := by
  obtain ⟨early, late, rfl, follows⟩ := story.exists_follows spawned
  cases follows with
  | spawned admitted first => exact List.mem_append_left _ admitted

private theorem asked_of_admitted (story : Story deeds) (admitted : .admitted ticket ∈ deeds) :
    .began ticket .start ∈ deeds := by
  obtain ⟨early, late, rfl, follows⟩ := story.exists_follows admitted
  cases follows with
  | admitted asked down => exact List.mem_append_left _ asked

private theorem asked_of_raised (story : Story deeds) (raised : .raised ticket ∈ deeds) :
    .began ticket .shutdown ∈ deeds := by
  obtain ⟨early, late, rfl, follows⟩ := story.exists_follows raised
  cases follows with
  | raised asked first => exact List.mem_append_left _ asked

theorem exists_began (story : Story deeds) (done : deed ∈ deeds) :
    ∃ wish, .began deed.ticket wish ∈ deeds := by
  cases deed with
  | began ticket wish => exact ⟨wish, done⟩
  | admitted ticket => exact ⟨.start, story.asked_of_admitted done⟩
  | spawned ticket => exact ⟨.start, story.asked_of_admitted (story.admitted_of_spawned done)⟩
  | raised ticket => exact ⟨.shutdown, story.asked_of_raised done⟩
  | answered ticket wish result =>
      obtain ⟨early, late, rfl, follows⟩ := story.exists_follows done
      have told : Story early := story.of_append rfl
      refine ⟨wish, List.mem_append_left _ ?_⟩
      cases follows with
      | answered unanswered due =>
          cases due with
          | started spawned => exact told.asked_of_admitted (told.admitted_of_spawned spawned)
          | lateStart asked raised barred => exact asked
          | secondStart admitted apart spawned => exact told.asked_of_admitted admitted
          | stopped raised | broken raised => exact told.asked_of_raised raised
          | secondShutdown asked apart raised unheeded => exact asked

/-- Of a kind that is never done again there is at most one deed. -/
theorem countP_le_one (story : Story deeds) (kind : Deed → Bool)
    (once : ∀ early deed, Story early → Follows early deed → kind deed = true →
      ∀ former ∈ early, kind former = false) : deeds.countP kind ≤ 1 := by
  induction story with
  | nil => exact Nat.zero_le 1
  | @tell told deed story follows ih =>
      rw [List.countP_append, List.countP_singleton]
      cases kindly : kind deed with
      | false => simpa [kindly] using ih
      | true =>
          have none : told.countP kind = 0 := by
            rw [List.countP_eq_zero]
            intro former done
            simp [once told deed story follows kindly former done]
          simp [none]

theorem countP_isRaise (story : Story deeds) : deeds.countP Deed.isRaise ≤ 1 := by
  refine story.countP_le_one _ ?_
  intro early deed told follows raise former done
  cases follows with
  | raised asked first =>
      cases former with
      | raised raiser => exact absurd done (first raiser)
      | _ => rfl
  | _ => cases raise

theorem countP_isSpawn (story : Story deeds) : deeds.countP Deed.isSpawn ≤ 1 := by
  refine story.countP_le_one _ ?_
  intro early deed told follows spawn former done
  cases follows with
  | spawned admitted first =>
      cases former with
      | spawned other => exact absurd done (first other)
      | _ => rfl
  | _ => cases spawn

theorem eq_of_raised (story : Story deeds) (one : .raised ticket ∈ deeds)
    (two : .raised other ∈ deeds) : ticket = other := by
  cases eq_of_countP_le_one story.countP_isRaise one two rfl rfl
  rfl

private theorem eq_of_spawned (story : Story deeds) (one : .spawned ticket ∈ deeds)
    (two : .spawned other ∈ deeds) : ticket = other := by
  cases eq_of_countP_le_one story.countP_isSpawn one two rfl rfl
  rfl

theorem countP_isStarted (story : Story deeds) : deeds.countP Deed.isStarted ≤ 1 := by
  have spawned {early : List Deed} (told : Story early) {ticket : Nat}
      (started : .answered ticket .start (.ok ()) ∈ early) : .spawned ticket ∈ early := by
    obtain ⟨before, after, rfl, follows⟩ := told.exists_follows started
    cases follows with
    | answered unanswered due =>
        cases due with
        | started spawned => exact List.mem_append_left _ spawned
  -- A second start that is answered well would rest on the same spawning, so it would be the
  -- same call; and no call is answered twice.
  refine story.countP_le_one _ ?_
  intro early deed told follows start former done
  cases follows with
  | answered unanswered due =>
      cases due with
      | started spawner =>
          match former with
          | .answered ticket .start (.ok ()) =>
              cases told.eq_of_spawned (spawned told done) spawner
              exact absurd done (unanswered _ _)
          | .answered _ .start (.error _) | .answered _ .shutdown _ | .began .. | .admitted _
          | .spawned _ | .raised _ => rfl
      | _ => cases start
  | _ => cases start

end Story

end Supervisor.Owners

end AmqpClient
