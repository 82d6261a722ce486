import AmqpClient.Supervisor.Lifecycle
import AmqpClient.Supervisor.Loop
import Mathlib.Logic.Relation

/-!
# Runs of the supervisor's loop

A run takes the loop, its callers and the broker through single steps in any
order. The broker may answer a call with anything of the right form, fail it or
never answer it, and may close what it likes at any time; callers may start the
loop, shut it down and ask it to reconnect, each half of a request on its own.
What the run leaves behind is a history of calls and of writes to the session.
-/

set_option autoImplicit false

namespace AmqpClient

/-! ## Starting and stopping -/

namespace SupervisorCells

variable {cells after : SupervisorCells}

theorem eq_of_start (started : cells.start = .ok after) :
    cells.isShutDown = false ∧ after = { cells with handle := .present } := by
  unfold start at started
  split at started
  · cases started
  · next up =>
    split at started
    · cases started
    · cases started
      exact ⟨Bool.eq_false_iff.mpr up, rfl⟩

theorem eq_of_raiseShutdown (raised : cells.raiseShutdown = .ok after) :
    cells.isShutDown = false ∧ after = { cells with isShutDown := true } := by
  unfold raiseShutdown at raised
  split at raised
  · cases raised
  · next up =>
    cases raised
    exact ⟨Bool.eq_false_iff.mpr up, rfl⟩

theorem takeHandle_of_present (handle : cells.handle = .present) :
    cells.takeHandle = { cells with handle := .taken } := by
  simp [takeHandle, handle]

theorem takeHandle_of_absent (handle : cells.handle = .absent) :
    cells.takeHandle =
      { cells with
        state := .closed
        passed := .closing :: (cells.setState .closing).passed
        session := none
        sessionVersion := cells.sessionVersion + 1 } := by
  simp [takeHandle, handle, setSession, setState]

end SupervisorCells

namespace Supervisor

/-- Something that happened between the loop and the broker, or to the session. -/
inductive Mark where
  | called (call : Call)
  | returned (call : Call) (reply : Reply)
  /-- A call was given up at the limit of its wait. -/
  | cutOff (call : Call)
  /-- A call was given up for an interrupt. -/
  | abandoned (call : Call)
  /-- The session cell was written. -/
  | wrote (session? : Option Session)

structure Entry where
  time : Nat
  mark : Mark

/-- Where the interrupts of the next point are looked at first. -/
def Next.looks : Next → Bool
  | .await _ => true
  | .proceed _ => false

def Next.point : Next → Point
  | .await point | .proceed point => point

/-- A pause may reach its limit although a shutdown has come meanwhile. -/
def Point.isPause : Point → Bool
  | .dialPause _ | .setupPause .. => true
  | _ => false

/-- The loop and everything around it. -/
structure Run where
  cells : SupervisorCells := {}
  signals : Signals := { connection := fun _ => {}, channel := fun _ => {} }
  now : Nat := 0
  point : Point := .entry
  /-- The interrupts of the point are looked at before anything else. -/
  looks : Bool := true
  isCalling : Bool := false
  /-- The caller who shut down has still to take the loop's handle. -/
  isEnding : Bool := false
  history : List Entry := []
  /-- The generations that requests to reconnect have named, the latest last. -/
  named : List Nat := []

namespace Run

def marks (run : Run) : List Mark :=
  run.history.map (·.mark)

def record (mark : Mark) (run : Run) : Run :=
  { run with history := run.history ++ [{ time := run.now, mark }] }

def setCells (cells : SupervisorCells) (run : Run) : Run :=
  -- A write is told by its version, since it may leave the cell as empty as it was.
  if cells.sessionVersion = run.cells.sessionVersion then { run with cells }
  else { run.record (.wrote cells.session) with cells }

/-- Turns to the call or the limit of the point. -/
def turn (run : Run) : Run :=
  { run with looks := false }

def makeCall (plan : Plan) (run : Run) : Run :=
  match run.point.call? plan with
  | some call => { run.record (.called call) with isCalling := true }
  | none => run

/-- Moves to the next point. Work that goes on at once makes its call at once. -/
def moveTo (plan : Plan) (next : Next) (run : Run) : Run :=
  let run := { run with point := next.point, looks := next.looks, isCalling := false }
  match next with
  | .await _ => run
  | .proceed _ => run.makeCall plan

def react (plan : Plan) (event : Event) (run : Run) : Run :=
  let reaction := Supervisor.react plan run.signals run.now run.cells run.point event
  (run.setCells reaction.cells).moveTo plan reaction.next

/-- Records how the call under way has ended, if there is one. -/
def endCall (plan : Plan) (ending : Call → Mark) (run : Run) : Run :=
  match run.isCalling, run.point.call? plan with
  | true, some call => run.record (ending call)
  | _, _ => run

def meet (plan : Plan) (event : Event) (run : Run) : Run :=
  (run.endCall plan .abandoned).react plan event

def receive (plan : Plan) (reply : Reply) (run : Run) : Run :=
  (run.endCall plan (.returned · reply)).react plan (.replied reply)

def timeOut (plan : Plan) (run : Run) : Run :=
  (run.endCall plan .cutOff).react plan .expired

/-- A caller names a generation: the first half of a request to reconnect. -/
def name (generation : Nat) (run : Run) : Run :=
  { run with
    cells := run.cells.nameGeneration generation
    named := run.named ++ [generation] }

/-- A caller wakes the loop: the second half of a request to reconnect. -/
def wake (run : Run) : Run :=
  { run with cells := run.cells.wakeLoop }

def currentGeneration? (run : Run) : Option Nat :=
  run.cells.session.map (·.generation)

/-- Whether the loop waits at its point: there is no call to be made first. -/
def IsWaiting (plan : Plan) (run : Run) : Prop :=
  run.isCalling = (run.point.call? plan).isSome

end Run

/-! ## What a look finds -/

/-- What is found at a point, and why. -/
inductive Point.Finds (signals : Signals) (cells : SupervisorCells) (point : Point) :
    Event → Prop where
  | begin (fresh : point = .entry) : Finds signals cells point .begin
  | shutdown (isShutDown : cells.isShutDown = true) : Finds signals cells point .shutdown
  | cutShort {connection deadline : Nat} {stage : Stage} {reason : String}
      (preparing : point = .setup connection stage deadline)
      (closed : (signals.connection connection).isClosed = true) :
      Finds signals cells point (.connectionClosed reason)
  | connectionClosed {session : Session} {reason : String} (watched : point = .ready session)
      (closed : (signals.connection session.connection).isClosed = true) :
      Finds signals cells point (.connectionClosed reason)
  | channelClosed {session : Session} {reason : String} (watched : point = .ready session)
      (closed : (signals.channel session.channel).isClosed = true)
      (isOpen : (signals.connection session.connection).isClosed = false) :
      Finds signals cells point (.channelClosed reason)
  | asked {session : Session} (watched : point = .ready session)
      (pending : cells.hasRequest = true) : Finds signals cells point .reconnect

theorem Point.finds_of_interrupt? {signals : Signals} {cells : SupervisorCells} {point : Point}
    {event : Event} (found : point.interrupt? signals cells = some event) :
    point.Finds signals cells event := by
  have isClosed {cell : CloseCell} {reason : String} (told : cell.closed? = some reason) :
      cell.isClosed = true := by
    rw [← CloseCell.isSome_closed?, told]
    rfl
  cases point with
  | entry =>
      cases found
      exact .begin rfl
  | releaseChannel | releaseConnection | closed => cases found
  | dial | dialPause | setupPause =>
      obtain ⟨isShutDown, same⟩ := Option.ite_none_right_eq_some.mp found
      cases same
      exact .shutdown isShutDown
  | setup connection stage deadline =>
      simp only [interrupt?] at found
      split at found
      · next isShutDown =>
        cases found
        exact .shutdown isShutDown
      · obtain ⟨reason, told, rfl⟩ := Option.map_eq_some_iff.mp found
        exact .cutShort rfl (isClosed told)
  | ready session =>
      simp only [interrupt?] at found
      split at found
      · next isShutDown =>
        cases found
        exact .shutdown isShutDown
      · rcases Option.or_eq_some_iff.mp found with lost | ⟨kept, found⟩
        · obtain ⟨reason, told, rfl⟩ := Option.map_eq_some_iff.mp lost
          exact .connectionClosed rfl (isClosed told)
        · rcases Option.or_eq_some_iff.mp found with lost | ⟨-, asked⟩
          · obtain ⟨reason, told, rfl⟩ := Option.map_eq_some_iff.mp lost
            refine .channelClosed rfl (isClosed told) ?_
            rw [← CloseCell.isSome_closed?, Option.map_eq_none_iff.mp kept]
            rfl
          · obtain ⟨pending, same⟩ := Option.ite_none_right_eq_some.mp asked
            cases same
            exact .asked rfl pending

/-! ## What the parts of a step leave alone -/

namespace Run

section

variable (run : Run) (plan : Plan) (mark : Mark) (ending : Call → Mark) (next : Next)
  (cells : SupervisorCells)

@[simp] theorem marks_record : (run.record mark).marks = run.marks ++ [mark] := by
  simp [marks, record]

/-- Making a call changes nothing but the history and the state of the call. -/
theorem makeCall_eq :
    ∃ isCalling history, run.makeCall plan = { run with isCalling, history } := by
  unfold makeCall
  split
  · exact ⟨_, _, rfl⟩
  · exact ⟨_, _, rfl⟩

@[simp] theorem cells_makeCall : (run.makeCall plan).cells = run.cells := by
  obtain ⟨_, _, same⟩ := run.makeCall_eq plan
  rw [same]

@[simp] theorem point_makeCall : (run.makeCall plan).point = run.point := by
  obtain ⟨_, _, same⟩ := run.makeCall_eq plan
  rw [same]

@[simp] theorem named_makeCall : (run.makeCall plan).named = run.named := by
  obtain ⟨_, _, same⟩ := run.makeCall_eq plan
  rw [same]

@[simp] theorem isEnding_makeCall : (run.makeCall plan).isEnding = run.isEnding := by
  obtain ⟨_, _, same⟩ := run.makeCall_eq plan
  rw [same]

theorem endCall_eq : ∃ history, run.endCall plan ending = { run with history } := by
  unfold endCall
  split
  · exact ⟨_, rfl⟩
  · exact ⟨_, rfl⟩

@[simp] theorem cells_endCall : (run.endCall plan ending).cells = run.cells := by
  obtain ⟨_, same⟩ := run.endCall_eq plan ending
  rw [same]

@[simp] theorem point_endCall : (run.endCall plan ending).point = run.point := by
  obtain ⟨_, same⟩ := run.endCall_eq plan ending
  rw [same]

@[simp] theorem named_endCall : (run.endCall plan ending).named = run.named := by
  obtain ⟨_, same⟩ := run.endCall_eq plan ending
  rw [same]

@[simp] theorem isEnding_endCall : (run.endCall plan ending).isEnding = run.isEnding := by
  obtain ⟨_, same⟩ := run.endCall_eq plan ending
  rw [same]

@[simp] theorem cells_setCells : (run.setCells cells).cells = cells := by
  unfold setCells
  split <;> rfl

@[simp] theorem point_setCells : (run.setCells cells).point = run.point := by
  unfold setCells
  split <;> rfl

@[simp] theorem named_setCells : (run.setCells cells).named = run.named := by
  unfold setCells
  split <;> rfl

@[simp] theorem isEnding_setCells : (run.setCells cells).isEnding = run.isEnding := by
  unfold setCells
  split <;> rfl

@[simp] theorem cells_moveTo : (run.moveTo plan next).cells = run.cells := by
  cases next <;> simp [moveTo]

@[simp] theorem point_moveTo : (run.moveTo plan next).point = next.point := by
  cases next <;> simp [moveTo]

@[simp] theorem named_moveTo : (run.moveTo plan next).named = run.named := by
  cases next <;> simp [moveTo]

@[simp] theorem isEnding_moveTo : (run.moveTo plan next).isEnding = run.isEnding := by
  cases next <;> simp [moveTo]

end

end Run

/-! ## Steps -/

/-- One step of a run. The first seven are those of callers and of the broker. -/
inductive Step (plan : Plan) : Run → Run → Prop where
  | pass (run : Run) (milliseconds : Nat) :
      Step plan run { run with now := run.now + milliseconds }
  /-- Connections and channels end. -/
  | signal (run : Run) (signals : Signals) : Step plan run { run with signals }
  | start {run : Run} {cells : SupervisorCells} :
      run.cells.start = .ok cells → Step plan run { run with cells }
  | raise {run : Run} {cells : SupervisorCells} :
      run.cells.raiseShutdown = .ok cells → Step plan run { run with cells, isEnding := true }
  | take {run : Run} :
      run.isEnding = true →
      Step plan run { run.setCells run.cells.takeHandle with isEnding := false }
  | name (run : Run) (generation : Nat) : Step plan run (run.name generation)
  | wake (run : Run) : Step plan run run.wake
  /-- The loop is polled anew. -/
  | poll {run : Run} : run.IsWaiting plan → Step plan run { run with looks := true }
  | look {run : Run} {event : Event} :
      run.cells.handle ≠ .absent → run.looks = true →
      run.point.interrupt? run.signals run.cells = some event →
      Step plan run (run.meet plan event)
  /-- There is no interrupt, and the loop turns to its call or its limit. What comes
  from now on is not looked at before the next poll. -/
  | overlook {run : Run} :
      run.looks = true → run.point.interrupt? run.signals run.cells = none →
      Step plan run run.turn
  | call {run : Run} :
      run.isCalling = false → run.looks = false → Step plan run (run.makeCall plan)
  | reply {run : Run} {call : Call} {reply : Reply} :
      run.isCalling = true → run.looks = false → run.point.call? plan = some call →
      (∀ answer, reply = .ok answer → answer.answers call = true) →
      Step plan run (run.receive plan reply)
  | expire {run : Run} {deadline : Nat} :
      run.IsWaiting plan → run.looks = false ∨ run.point.isPause = true →
      run.point.deadline? = some deadline → deadline ≤ run.now →
      Step plan run (run.timeOut plan)

theorem Step.answered {plan : Plan} {run : Run} {call : Call} (answer : Answer)
    (calling : run.isCalling = true) (overlooked : run.looks = false)
    (pending : run.point.call? plan = some call) (answers : answer.answers call = true) :
    Step plan run (run.receive plan (.ok answer)) := by
  refine .reply calling overlooked pending ?_
  intro given same
  cases same
  exact answers

abbrev Steps (plan : Plan) : Run → Run → Prop :=
  Relation.ReflTransGen (Step plan)

def Reachable (plan : Plan) (run : Run) : Prop :=
  Steps plan {} run

end Supervisor

end AmqpClient
