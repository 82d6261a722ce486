import AmqpClient.Consumer.Dispatch
import AmqpClient.Proofs.Consumer.Record

/-!
# Runs of a consumer

A run takes a consumer, the pools that it has opened and all that is around them through
single steps in any order. Sessions come and go, channels close and time passes as they
like; the broker answers a call with anything of the right form, fails it or never answers;
whoever runs the consumer may give it up. The workers of an earlier pool would go on if any
were left.
-/

set_option autoImplicit false

namespace AmqpClient.Consumer

namespace Point

/-- The session on whose channel a call is due or under way. -/
def session? : Point → Option Session
  | .limiting session _ | .subscribing session _ => some session
  | _ => none

/-- The generation whose pool is about to end. -/
def ending? : Point → Option Nat
  | .draining generation _ _ | .aborting generation _ => some generation
  | _ => none

/-- Whether there may be workers at work. -/
def hasStream : Point → Bool
  | .streaming _ | .draining .. | .aborting .. => true
  | _ => false

/-- A pause may reach its limit although a shutdown has come meanwhile. -/
def isPause : Point → Bool
  | .pausing .. => true
  | _ => false

end Point

structure Run where
  signals : Signals := { connection := fun _ => {}, channel := fun _ => {} }
  cells : SupervisorCells := {}
  now : Nat := 0
  point : Point := .entry
  /-- The pool of the latest stream. -/
  shift : Shift := { pool := {} }
  /-- The pools of the streams before it. -/
  earlier : List Shift := []
  looks : Bool := true
  isCalling : Bool := false
  /-- The consumer was given up. -/
  isDropped : Bool := false
  calls : List (Session × Call) := []

namespace Run

def consumption (run : Run) : Consumption :=
  { point := run.point, pool := run.shift.pool }

def shifts (run : Run) : List Shift :=
  run.earlier ++ [run.shift]

def IsWaiting (plan : Plan) (run : Run) : Prop :=
  run.isCalling = (run.point.call? plan).isSome

def turn (run : Run) : Run :=
  { run with looks := false }

def makeCall (session : Session) (call : Call) (run : Run) : Run :=
  { run with isCalling := true, calls := run.calls ++ [(session, call)] }

/-- Takes up the place that an event leads to. A stream comes with a pool of its own. -/
def moveTo (consumption : Consumption) (run : Run) : Run :=
  if run.point.opensStream consumption.point then
    { run with
      point := consumption.point
      shift := { pool := consumption.pool }
      earlier := run.shifts }
  else
    { run with point := consumption.point, shift := { run.shift with pool := consumption.pool } }

def meet (plan : Plan) (event : Event) (run : Run) : Run :=
  let reaction := react plan run.signals run.now run.cells run.consumption event
  { run.moveTo reaction.consumption with
    cells := reaction.cells, looks := reaction.looks, isCalling := false }

end Run

/-- Whether an event can meet a consumer. -/
inductive Occurs (plan : Plan) (run : Run) : Event → Prop where
  | interrupt {event : Event} :
      run.looks = true → run.consumption.interrupt? run.signals run.cells = some event →
      Occurs plan run event
  | reply {call : Call} {reply : Reply} :
      run.isCalling = true → run.looks = false → run.point.call? plan = some call →
      (∀ answer, reply = .ok answer → answer.answers call = true) →
      Occurs plan run (.replied reply)
  | expire {deadline : Nat} :
      run.IsWaiting plan → run.looks = false ∨ run.point.isPause = true →
      run.point.deadline? = some deadline → deadline ≤ run.now → Occurs plan run .expired

/-- What a consumer does by itself. -/
inductive Work (plan : Plan) : Run → Run → Prop where
  | meet {run : Run} {event : Event} : Occurs plan run event → Work plan run (run.meet plan event)
  | overlook {run : Run} :
      run.looks = true → run.consumption.interrupt? run.signals run.cells = none →
      Work plan run run.turn
  | call {run : Run} {session : Session} {call : Call} :
      run.isCalling = false → run.looks = false → run.point.session? = some session →
      run.point.call? plan = some call → Work plan run (run.makeCall session call)

inductive Step (plan : Plan) : Run → Run → Prop where
  | around (run : Run) (signals : Signals) (cells : SupervisorCells) (now : Nat) :
      Step plan run { run with signals, cells, now }
  | work {run after : Run} : run.isDropped = false → Work plan run after → Step plan run after
  | poll {run : Run} :
      run.isDropped = false → run.IsWaiting plan → Step plan run { run with looks := true }
  /-- The pool goes with its consumer. -/
  | drop (run : Run) :
      Step plan run
        { run with isDropped := true, shift := { run.shift with pool := run.shift.pool.cancel } }
  | act {run : Run} {shift : Shift} : run.shift.Act shift → Step plan run { run with shift }
  | linger {run : Run} {front back : List Shift} {shift after : Shift} :
      run.earlier = front ++ shift :: back → shift.Act after →
      Step plan run { run with earlier := front ++ after :: back }

abbrev Steps (plan : Plan) : Run → Run → Prop :=
  Relation.ReflTransGen (Step plan)

/-! ## Where an event leads -/

/-- The ways of a consumer from one place to the next. -/
inductive Proceeds (plan : Plan) : Consumption → Consumption → Prop where
  | begin {pool : Pool} :
      Proceeds plan { point := .entry, pool } { point := .awaiting { after := 0 }, pool }
  | wait {waiter next : SessionWaiter} {pool : Pool} :
      next.after = waiter.after →
      Proceeds plan { point := .awaiting waiter, pool } { point := .awaiting next, pool }
  | limit {waiter : SessionWaiter} {session : Session} {deadline : Nat} {pool : Pool} :
      waiter.after < session.generation →
      Proceeds plan { point := .awaiting waiter, pool }
        { point := .limiting session deadline, pool }
  | subscribe {session : Session} {early late : Nat} {pool : Pool} :
      Proceeds plan { point := .limiting session early, pool }
        { point := .subscribing session late, pool }
  | stream {session : Session} {deadline stream : Nat} {pool : Pool} :
      Proceeds plan { point := .subscribing session deadline, pool }
        { point := .streaming session, pool := Pool.spawn plan.queue stream plan.workers }
  | fail {point : Point} {session : Session} {deadline : Nat} {pool : Pool} :
      point.session? = some session →
      Proceeds plan { point, pool } { point := .pausing session.generation deadline, pool }
  | drain {session : Session} {exit : StreamExit} {deadline : Nat} {pool : Pool} :
      Proceeds plan { point := .streaming session, pool }
        { point := .draining session.generation exit deadline, pool := pool.stop }
  | report {generation deadline : Nat} {exit : StreamExit} {pool : Pool} :
      Proceeds plan { point := .draining generation exit deadline, pool }
        { point := .draining generation exit deadline
          pool := { pool with broken := pool.broken.drop 1 } }
  | cutOff {generation deadline : Nat} {exit : StreamExit} {pool : Pool} :
      Proceeds plan { point := .draining generation exit deadline, pool }
        { point := .aborting generation exit, pool := pool.cancel }
  | leave {point : Point} {generation deadline : Nat} {pool : Pool} :
      point.ending? = some generation → pool.isOver = true →
      Proceeds plan { point, pool } { point := .pausing generation deadline, pool }
  | resume {generation deadline : Nat} {pool : Pool} :
      Proceeds plan { point := .pausing generation deadline, pool }
        { point := .awaiting { after := generation }, pool }
  | finish {point : Point} {result : Except ClientError Unit} {pool : Pool} :
      point.hasStream = false ∨ pool.isOver = true →
      Proceeds plan { point, pool } { point := .finished result, pool }

section

variable {plan : Plan} {signals : Signals} {cells : SupervisorCells} {now : Nat}

private theorem look_proceeds (waiter : SessionWaiter) (pool : Pool) :
    Proceeds plan { point := .awaiting waiter, pool }
      (look plan signals now cells pool waiter).consumption := by
  unfold look
  cases polled : waiter.poll signals cells with
  | error next =>
      refine .wait ?_
      unfold SessionWaiter.poll at polled
      split at polled
      · cases polled
      · split at polled
        · split at polled <;> cases polled
          rfl
        · cases polled
          rfl
  | ok outcome =>
      cases outcome with
      | error error => cases error <;> exact .finish (.inl rfl)
      | ok session =>
          refine .limit ?_
          unfold SessionWaiter.poll at polled
          split at polled
          · cases polled
          · split at polled
            · split at polled
              · next found =>
                  cases polled
                  have wanted := (Option.filter_eq_some_iff.mp found).2
                  exact of_decide_eq_true (Bool.and_eq_true_iff.mp wanted).1
              · cases polled
            · cases polled

private theorem leave_proceeds {point : Point} {generation : Nat} {exit : StreamExit} {pool : Pool}
    (ending : point.ending? = some generation) (gone : pool.isOver = true) :
    Proceeds plan { point, pool } (leave plan now cells pool generation exit).consumption := by
  cases exit with
  | shutdown => exact .finish (.inr gone)
  | failed reason => exact .leave ending gone

private theorem interrupt_proceeds {consumption : Consumption} {event : Event}
    (found : consumption.interrupt? signals cells = some event) :
    Proceeds plan consumption (react plan signals now cells consumption event).consumption := by
  obtain ⟨point, pool⟩ := consumption
  unfold Consumption.interrupt? at found
  cases point with
  | entry =>
      cases found
      exact .begin
  | awaiting waiter =>
      simp only at found
      split at found
      · cases found
        exact .finish (.inl rfl)
      · split at found
        · cases found
          exact look_proceeds waiter pool
        · cases found
  | limiting | subscribing | pausing =>
      simp only at found
      split at found
      · cases found
        exact .finish (.inl rfl)
      · cases found
  | streaming session =>
      simp only at found
      split at found
      · cases found
        exact .drain
      · rcases Option.or_eq_some_iff.mp found with closed | ⟨-, rest⟩
        · obtain ⟨reason, -, rfl⟩ := Option.map_eq_some_iff.mp closed
          exact .drain
        · rcases Option.or_eq_some_iff.mp rest with closed | ⟨-, ended⟩
          · obtain ⟨reason, -, rfl⟩ := Option.map_eq_some_iff.mp closed
            exact .drain
          · obtain ⟨reason, -, rfl⟩ := Option.map_eq_some_iff.mp ended
            exact .drain
  | draining generation exit deadline =>
      simp only at found
      split at found
      · cases found
        exact .report
      · cases gone : pool.isOver with
        | true =>
            rw [gone] at found
            cases found
            exact leave_proceeds rfl gone
        | false =>
            rw [gone] at found
            cases found
  | aborting generation exit =>
      simp only at found
      cases gone : pool.isOver with
      | true =>
          rw [gone] at found
          cases found
          exact leave_proceeds rfl gone
      | false =>
          rw [gone] at found
          cases found
  | finished => cases found

private theorem reply_proceeds {consumption : Consumption} {call : Call} {reply : Reply}
    (due : consumption.point.call? plan = some call) :
    Proceeds plan consumption
      (react plan signals now cells consumption (.replied reply)).consumption := by
  obtain ⟨point, pool⟩ := consumption
  cases point with
  | limiting session deadline =>
      cases reply with
      | ok answer => exact .subscribe
      | error error => exact .fail rfl
  | subscribing session deadline =>
      cases reply with
      | ok answer => exact .stream
      | error error => exact .fail rfl
  | entry | awaiting | streaming | draining | aborting | pausing | finished => cases due

private theorem expire_proceeds {consumption : Consumption} {deadline : Nat}
    (limit : consumption.point.deadline? = some deadline) :
    Proceeds plan consumption
      (react plan signals now cells consumption .expired).consumption := by
  obtain ⟨point, pool⟩ := consumption
  cases point with
  | limiting | subscribing => exact .fail rfl
  | draining => exact .cutOff
  | pausing => exact .resume
  | entry | awaiting | streaming | aborting | finished => cases limit

end

theorem Occurs.proceeds {plan : Plan} {run : Run} {event : Event} (occurs : Occurs plan run event) :
    Proceeds plan run.consumption
      (react plan run.signals run.now run.cells run.consumption event).consumption := by
  cases occurs with
  | interrupt _ found => exact interrupt_proceeds found
  | reply _ _ due => exact reply_proceeds due
  | expire _ _ limit => exact expire_proceeds limit

end AmqpClient.Consumer
