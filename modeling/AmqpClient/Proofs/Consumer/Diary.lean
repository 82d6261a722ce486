import AmqpClient.Proofs.Consumer.Generations
import AmqpClient.Proofs.Supervisor.Waiting

/-!
# What a consumer does, entry by entry

A run of a consumer that writes down what it does: the sessions that it takes, its calls and
how they end, the streams that it leaves, the failures that it has handled, the requests to
reconnect, and its end.
-/

set_option autoImplicit false

namespace AmqpClient.Consumer

namespace Run

variable {plan : Plan} {run : Run} {event : Event}

theorem point_meet :
    (run.meet plan event).point =
      (react plan run.signals run.now run.cells run.consumption event).consumption.point := by
  simp only [meet, moveTo]
  split <;> rfl

theorem now_meet : (run.meet plan event).now = run.now := by
  simp only [meet, moveTo]
  split <;> rfl

private theorem signals_meet : (run.meet plan event).signals = run.signals := by
  simp only [meet, moveTo]
  split <;> rfl

end Run

/-! ## Keeping a diary -/

namespace Diary

inductive Mark where
  | began
  /-- A ready session was found, and its channel is about to be used. -/
  | took (session : Session)
  | called (session : Session) (call : Call)
  | returned (session : Session) (call : Call) (reply : Reply)
  /-- A call was given up at the limit of its wait. -/
  | cutOff (session : Session) (call : Call)
  /-- A call was given up for a shutdown. -/
  | abandoned (session : Session) (call : Call)
  /-- A stream is over, and its workers are stopped. -/
  | left (generation : Nat) (exit : StreamExit)
  /-- A failure has been handled, and the pause after it begins. -/
  | failed (generation : Nat)
  /-- The supervisor was asked to replace the session of a generation. -/
  | asked (generation : Nat)
  | finished (result : Except ClientError Unit)

structure Entry where
  time : Nat
  mark : Mark

end Diary

structure Diary where
  run : Run := {}
  entries : List Diary.Entry := []

namespace Point

/-- The generation that the supervisor is asked to replace. -/
def request? : Point → Event → Option Nat
  | .pausing generation _, .expired => some generation
  | _, _ => none

/-- The generation whose pool is about to end, and why. -/
def exit? : Point → Option (Nat × StreamExit)
  | .draining generation exit _ | .aborting generation exit => some (generation, exit)
  | _ => none

/-- Whether a shutdown ends the consumer here with no call under way. -/
def heeds (isCalling : Bool) : Point → Bool
  | .awaiting _ | .pausing .. => true
  | .limiting .. | .subscribing .. => !isCalling
  | _ => false

/-- Whether only a shutdown leads here. -/
def hasHeard : Point → Bool
  | .draining _ .shutdown _ | .aborting _ .shutdown | .finished _ => true
  | _ => false

/-- How the call under way ends with an event, if there is one. -/
def endMarks (plan : Plan) (isCalling : Bool) (point : Point) (event : Event) :
    List Diary.Mark :=
  match isCalling, point.session?, point.call? plan with
  | true, some session, some call =>
    match event with
    | .replied reply => [.returned session call reply]
    | .expired => [.cutOff session call]
    | _ => [.abandoned session call]
  | _, _, _ => []

/-- What is written down when a place is reached from another. -/
def arrivalMarks : Point → Point → List Diary.Mark
  | .entry, .awaiting _ => [.began]
  | .awaiting _, .limiting session _ => [.took session]
  | .streaming _, .draining generation exit _ => [.left generation exit]
  | .pausing .., .pausing .. => []
  | _, .pausing generation _ => [.failed generation]
  | .finished _, .finished _ => []
  | _, .finished result => [.finished result]
  | _, _ => []

/-- What is written down when an event leads from one place to the next. -/
def marks (plan : Plan) (isCalling : Bool) (event : Event) (point next : Point) :
    List Diary.Mark :=
  point.endMarks plan isCalling event ++
    ((point.request? event).toList.map Diary.Mark.asked ++ point.arrivalMarks next)

end Point

private theorem cells_look {plan : Plan} {signals : Signals} {now : Nat} {cells : SupervisorCells}
    (pool : Pool) (waiter : SessionWaiter) :
    (look plan signals now cells pool waiter).cells = cells := by
  unfold look
  split <;> rfl

/-- A consumer writes to the supervisor's cells for its requests only. -/
theorem cells_react {plan : Plan} {signals : Signals} {now : Nat} {cells : SupervisorCells}
    (consumption : Consumption) (event : Event) :
    (react plan signals now cells consumption event).cells =
      (consumption.point.request? event).elim cells cells.requestReconnect := by
  obtain ⟨point, pool⟩ := consumption
  have leaves (generation : Nat) (exit : StreamExit) :
      (leave plan now cells pool generation exit).cells = cells := by
    cases exit <;> rfl
  cases point with
  | entry => cases event <;> rfl
  | awaiting waiter => cases event <;> first | rfl | exact cells_look pool waiter
  | limiting | subscribing =>
      cases event with
      | replied reply => cases reply <;> rfl
      | begin | shutdown | woken | connectionClosed | channelClosed | streamEnded | workerBroke
      | joined | expired => rfl
  | draining generation exit | aborting generation exit =>
      cases event <;> first | rfl | exact leaves generation exit
  | streaming | pausing => cases event <;> rfl
  | finished => rfl

namespace Diary

section

variable (plan : Plan) (diary : Diary)

def note (marks : List Mark) : Diary :=
  { diary with entries := diary.entries ++ marks.map ({ time := diary.run.now, mark := · }) }

def marks : List Mark :=
  diary.entries.map (·.mark)

/-- Where an event leads. -/
def next (event : Event) : Consumption :=
  (react plan diary.run.signals diary.run.now diary.run.cells diary.run.consumption
    event).consumption

def meet (event : Event) : Diary :=
  { diary.note
      (diary.run.point.marks plan diary.run.isCalling event (diary.next plan event).point) with
    run := diary.run.meet plan event }

def makeCall (session : Session) (call : Call) : Diary :=
  { diary.note [.called session call] with run := diary.run.makeCall session call }

private theorem marks_note (marks : List Mark) :
    (diary.note marks).marks = diary.marks ++ marks := by
  simp [Diary.marks, note, Function.comp_def]

theorem marks_meet (event : Event) :
    (diary.meet plan event).marks =
      diary.marks ++
        diary.run.point.marks plan diary.run.isCalling event (diary.next plan event).point :=
  marks_note ..

theorem marks_makeCall (session : Session) (call : Call) :
    (diary.makeCall session call).marks = diary.marks ++ [.called session call] :=
  marks_note ..

end

/-- What happens to a consumer where it stands. -/
inductive Rests (plan : Plan) : Run → Run → Prop where
  | overlook {run : Run} :
      run.isDropped = false → run.looks = true →
      run.consumption.interrupt? run.signals run.cells = none → Rests plan run run.turn
  | poll {run : Run} :
      run.isDropped = false → run.IsWaiting plan → Rests plan run { run with looks := true }
  | drop (run : Run) :
      Rests plan run
        { run with isDropped := true, shift := { run.shift with pool := run.shift.pool.cancel } }
  | act {run : Run} {shift : Shift} : run.shift.Act shift → Rests plan run { run with shift }
  | linger {run : Run} {front back : List Shift} {shift after : Shift} :
      run.earlier = front ++ shift :: back → shift.Act after →
      Rests plan run { run with earlier := front ++ after :: back }

/-- What a consumer does, with the generation that it asks the supervisor to replace. -/
inductive Acts (plan : Plan) : Option Nat → Diary → Diary → Prop where
  | meet {diary : Diary} {event : Event} :
      diary.run.isDropped = false → Occurs plan diary.run event →
      Acts plan (diary.run.point.request? event) diary (diary.meet plan event)
  | call {diary : Diary} {session : Session} {call : Call} :
      diary.run.isDropped = false → diary.run.isCalling = false → diary.run.looks = false →
      diary.run.point.session? = some session → diary.run.point.call? plan = some call →
      Acts plan none diary (diary.makeCall session call)
  | rest {diary : Diary} {run : Run} :
      Rests plan diary.run run → Acts plan none diary { diary with run }

/-- What a consumer sees of everything around it. -/
def sees (signals : Signals) (cells : SupervisorCells) (now : Nat) (diary : Diary) : Diary :=
  { diary with run := { diary.run with signals, cells, now } }

/-- One step of a consumer that keeps a diary. Time goes on, and a shutdown is final. -/
inductive Step (plan : Plan) : Diary → Diary → Prop where
  | around (diary : Diary) (signals : Signals) {cells : SupervisorCells} (elapsed : Nat) :
      (diary.run.cells.isShutDown = true → cells.isShutDown = true) →
      Step plan diary (diary.sees signals cells (diary.run.now + elapsed))
  | act {diary after : Diary} {request? : Option Nat} :
      Acts plan request? diary after → Step plan diary after

abbrev Steps (plan : Plan) : Diary → Diary → Prop :=
  Relation.ReflTransGen (Step plan)

section

variable {plan : Plan} {diary after : Diary}

/-- A diary changes nothing for the consumer who keeps it. -/
theorem Step.run (step : Step plan diary after) : Consumer.Step plan diary.run after.run := by
  cases step with
  | around => exact .around ..
  | act acts =>
      cases acts with
      | meet kept occurs => exact .work kept (.meet occurs)
      | call kept idle turned due named => exact .work kept (.call idle turned due named)
      | rest rests =>
          cases rests with
          | overlook kept looks nothing => exact .work kept (.overlook looks nothing)
          | poll kept waits => exact .poll kept waits
          | drop => exact .drop _
          | act act => exact .act act
          | linger split act => exact .linger split act

/-- What a consumer does changes nothing around it but for its request. -/
theorem Acts.surroundings {request? : Option Nat} (acts : Acts plan request? diary after) :
    after.run.signals = diary.run.signals ∧ after.run.now = diary.run.now ∧
      after.run.cells = request?.elim diary.run.cells diary.run.cells.requestReconnect := by
  cases acts with
  | meet => exact ⟨Run.signals_meet, Run.now_meet, cells_react ..⟩
  | call => exact ⟨rfl, rfl, rfl⟩
  | rest rests => cases rests <;> exact ⟨rfl, rfl, rfl⟩

/-- Every step of a consumer can be written down, as long as time goes on and a shutdown
stays. -/
theorem exists_step {run : Run} (step : Consumer.Step plan diary.run run)
    (later : diary.run.now ≤ run.now)
    (stays : diary.run.cells.isShutDown = true → run.cells.isShutDown = true) :
    ∃ after, Step plan diary after ∧ after.run = run := by
  cases step with
  | around signals cells now =>
      have step : Step plan diary
          (diary.sees signals cells (diary.run.now + (now - diary.run.now))) :=
        .around diary signals _ stays
      rw [Nat.add_sub_cancel' later] at step
      exact ⟨_, step, rfl⟩
  | work kept work =>
      cases work with
      | meet occurs => exact ⟨_, .act (.meet kept occurs), rfl⟩
      | overlook looks nothing => exact ⟨_, .act (.rest (.overlook kept looks nothing)), rfl⟩
      | call idle turned due named =>
          exact ⟨_, .act (.call kept idle turned due named), rfl⟩
  | poll kept waits => exact ⟨_, .act (.rest (.poll kept waits)), rfl⟩
  | drop => exact ⟨_, .act (.rest (.drop _)), rfl⟩
  | act act => exact ⟨_, .act (.rest (.act act)), rfl⟩
  | linger split act => exact ⟨_, .act (.rest (.linger split act)), rfl⟩

end

/-! ## Where an event leads, and what is written down -/

/-- The ways of a consumer from one place to the next, with the marks that they leave. -/
inductive Passes (plan : Plan) (cells : SupervisorCells) (now : Nat) :
    Bool → Point → Point → List Mark → Prop where
  | begin {isCalling : Bool} :
      Passes plan cells now isCalling .entry (.awaiting { after := 0 }) [.began]
  | wait {isCalling : Bool} {waiter next : SessionWaiter} :
      next.after = waiter.after →
      Passes plan cells now isCalling (.awaiting waiter) (.awaiting next) []
  | take {isCalling : Bool} {waiter : SessionWaiter} {session : Session} {deadline : Nat} :
      waiter.after < session.generation → cells.session = some session →
      Passes plan cells now isCalling (.awaiting waiter) (.limiting session deadline)
        [.took session]
  | limited {session : Session} {early late : Nat} {answer : Answer} :
      Passes plan cells now true (.limiting session early) (.subscribing session late)
        [.returned session (.qos session.channel plan.settings.prefetch) (.ok answer)]
  | subscribed {session : Session} {deadline : Nat} {answer : Answer} :
      Passes plan cells now true (.subscribing session deadline) (.streaming session)
        [.returned session (.consume session.channel plan.queue plan.settings.consumerTag)
          (.ok answer)]
  | refused {point : Point} {session : Session} {call : Call} {error : ClientError} :
      point.session? = some session → point.call? plan = some call →
      Passes plan cells now true point
        (.pausing session.generation (now + plan.settings.resubscribeDelay))
        [.returned session call (.error error), .failed session.generation]
  | late {point : Point} {session : Session} {call : Call} :
      point.session? = some session → point.call? plan = some call →
      Passes plan cells now true point
        (.pausing session.generation (now + plan.settings.resubscribeDelay))
        [.cutOff session call, .failed session.generation]
  | abandon {point : Point} {session : Session} {call : Call} :
      point.session? = some session → point.call? plan = some call → cells.isShutDown = true →
      Passes plan cells now true point (.finished (.ok ()))
        [.abandoned session call, .finished (.ok ())]
  | drain {isCalling : Bool} {session : Session} {exit : StreamExit} {deadline : Nat} :
      (exit = .shutdown → cells.isShutDown = true) →
      Passes plan cells now isCalling (.streaming session)
        (.draining session.generation exit deadline) [.left session.generation exit]
  | report {isCalling : Bool} {generation deadline : Nat} {exit : StreamExit} :
      Passes plan cells now isCalling (.draining generation exit deadline)
        (.draining generation exit deadline) []
  | abort {isCalling : Bool} {generation deadline : Nat} {exit : StreamExit} :
      Passes plan cells now isCalling (.draining generation exit deadline)
        (.aborting generation exit) []
  | fail {isCalling : Bool} {point : Point} {generation : Nat} {reason : String} :
      point.exit? = some (generation, .failed reason) →
      Passes plan cells now isCalling point
        (.pausing generation (now + plan.settings.resubscribeDelay)) [.failed generation]
  | close {isCalling : Bool} {point : Point} {generation : Nat} :
      point.exit? = some (generation, .shutdown) →
      Passes plan cells now isCalling point (.finished (.ok ())) [.finished (.ok ())]
  | ask {isCalling : Bool} {generation deadline : Nat} :
      deadline ≤ now →
      Passes plan cells now isCalling (.pausing generation deadline)
        (.awaiting { after := generation }) [.asked generation]
  | stop {isCalling : Bool} {point : Point} :
      point.heeds isCalling = true → cells.isShutDown = true →
      Passes plan cells now isCalling point (.finished (.ok ())) [.finished (.ok ())]

section

variable {plan : Plan} {signals : Signals} {cells : SupervisorCells} {now : Nat}

private theorem look_passes (isCalling : Bool) (waiter : SessionWaiter) (pool : Pool) :
    Passes plan cells now isCalling (.awaiting waiter)
      (look plan signals now cells pool waiter).consumption.point
      (Point.marks plan isCalling .woken (.awaiting waiter)
        (look plan signals now cells pool waiter).consumption.point) := by
  have quiet (next : Point) : Point.marks plan isCalling .woken (.awaiting waiter) next =
      (Point.awaiting waiter).arrivalMarks next := by
    cases isCalling <;> rfl
  rw [quiet]
  unfold look
  cases polled : waiter.poll signals cells with
  | error next => exact .wait (SessionWaiter.eq_of_poll_error polled).1
  | ok outcome =>
      cases outcome with
      | error error =>
          obtain ⟨rfl, isShutDown⟩ := SessionWaiter.poll_eq_error_iff.mp polled
          exact .stop rfl isShutDown
      | ok session =>
          obtain ⟨-, -, found⟩ := SessionWaiter.poll_eq_ok_iff.mp polled
          obtain ⟨held, newer, -⟩ := SessionWaiter.candidate?_eq_some_iff.mp found
          exact .take newer held

private theorem leave_passes {isCalling : Bool} {point : Point} {generation : Nat}
    {exit : StreamExit}
    {pool : Pool} (ending : point.exit? = some (generation, exit)) :
    Passes plan cells now isCalling point
      (leave plan now cells pool generation exit).consumption.point
      (point.marks plan isCalling .joined
        (leave plan now cells pool generation exit).consumption.point) := by
  cases point with
  | draining | aborting =>
      cases ending
      cases exit with
      | shutdown => cases isCalling <;> exact .close rfl
      | failed reason => cases isCalling <;> exact .fail rfl
  | entry | awaiting | limiting | subscribing | streaming | pausing | finished => cases ending

private theorem interrupt_passes {isCalling : Bool} {consumption : Consumption} {event : Event}
    (found : consumption.interrupt? signals cells = some event) :
    Passes plan cells now isCalling consumption.point
      (react plan signals now cells consumption event).consumption.point
      (consumption.point.marks plan isCalling event
        (react plan signals now cells consumption event).consumption.point) := by
  obtain ⟨point, pool⟩ := consumption
  unfold Consumption.interrupt? at found
  cases point with
  | entry =>
      cases found
      cases isCalling <;> exact .begin
  | awaiting waiter =>
      simp only at found
      split at found
      · next down =>
        cases found
        cases isCalling <;> exact .stop rfl down
      · split at found
        · cases found
          exact look_passes isCalling waiter pool
        · cases found
  | limiting | subscribing =>
      obtain ⟨down, same⟩ := Option.ite_none_right_eq_some.mp found
      cases same
      cases isCalling with
      | false => exact .stop rfl down
      | true => exact .abandon rfl rfl down
  | pausing =>
      obtain ⟨down, same⟩ := Option.ite_none_right_eq_some.mp found
      cases same
      cases isCalling <;> exact .stop rfl down
  | streaming session =>
      simp only at found
      split at found
      · next down =>
        cases found
        cases isCalling <;> exact .drain fun _ => down
      · rcases Option.or_eq_some_iff.mp found with closed | ⟨-, rest⟩
        · obtain ⟨reason, -, rfl⟩ := Option.map_eq_some_iff.mp closed
          cases isCalling <;> exact .drain nofun
        · rcases Option.or_eq_some_iff.mp rest with closed | ⟨-, ended⟩
          · obtain ⟨reason, -, rfl⟩ := Option.map_eq_some_iff.mp closed
            cases isCalling <;> exact .drain nofun
          · obtain ⟨reason, -, rfl⟩ := Option.map_eq_some_iff.mp ended
            cases isCalling <;> exact .drain nofun
  | draining generation exit deadline =>
      simp only at found
      split at found
      · cases found
        cases isCalling <;> exact .report
      · obtain ⟨-, same⟩ := Option.ite_none_right_eq_some.mp found
        cases same
        exact leave_passes rfl
  | aborting generation exit =>
      obtain ⟨-, same⟩ := Option.ite_none_right_eq_some.mp found
      cases same
      exact leave_passes rfl
  | finished => cases found

private theorem reply_passes {consumption : Consumption} {call : Call} {reply : Reply}
    (due : consumption.point.call? plan = some call) :
    Passes plan cells now true consumption.point
      (react plan signals now cells consumption (.replied reply)).consumption.point
      (consumption.point.marks plan true (.replied reply)
        (react plan signals now cells consumption (.replied reply)).consumption.point) := by
  obtain ⟨point, pool⟩ := consumption
  cases point with
  | limiting session deadline =>
      cases reply with
      | ok answer => exact .limited
      | error error => exact .refused rfl rfl
  | subscribing session deadline =>
      cases reply with
      | ok answer => exact .subscribed
      | error error => exact .refused rfl rfl
  | entry | awaiting | streaming | draining | aborting | pausing | finished => cases due

private theorem expire_passes {isCalling : Bool} {consumption : Consumption} {deadline : Nat}
    (waits : isCalling = (consumption.point.call? plan).isSome)
    (limit : consumption.point.deadline? = some deadline) (due : deadline ≤ now) :
    Passes plan cells now isCalling consumption.point
      (react plan signals now cells consumption .expired).consumption.point
      (consumption.point.marks plan isCalling .expired
        (react plan signals now cells consumption .expired).consumption.point) := by
  obtain ⟨point, pool⟩ := consumption
  cases waits
  cases point with
  | limiting | subscribing => exact .late rfl rfl
  | draining => exact .abort
  | pausing =>
      cases limit
      exact .ask due
  | entry | awaiting | streaming | aborting | finished => cases limit

end

/-- A session is taken only while it is in the cell. -/
theorem Passes.session_of_took {plan : Plan} {cells : SupervisorCells} {now : Nat}
    {isCalling : Bool} {point next : Point} {marks : List Mark} {session : Session}
    (passes : Passes plan cells now isCalling point next marks) (took : .took session ∈ marks) :
    cells.session = some session := by
  cases passes with
  | take newer held =>
      cases List.mem_singleton.mp took
      exact held
  | begin | limited | subscribed | drain | fail | close | ask | stop =>
      cases List.mem_singleton.mp took
  | wait | report | abort => cases took
  | refused | late | abandon =>
      rcases List.mem_cons.mp took with same | rest
      · cases same
      · cases List.mem_singleton.mp rest

theorem passes_of_occurs {plan : Plan} {diary : Diary} {event : Event}
    (occurs : Occurs plan diary.run event) :
    Passes plan diary.run.cells diary.run.now diary.run.isCalling diary.run.point
      (diary.next plan event).point
      (diary.run.point.marks plan diary.run.isCalling event (diary.next plan event).point) := by
  cases occurs with
  | interrupt _ found => exact interrupt_passes found
  | @reply call reply calling _ due _ =>
      have due : diary.run.consumption.point.call? plan = some call := due
      rw [calling]
      exact reply_passes due
  | @expire deadline waits _ limit due =>
      have waits : diary.run.isCalling = (diary.run.consumption.point.call? plan).isSome := waits
      have limit : diary.run.consumption.point.deadline? = some deadline := limit
      exact expire_passes waits limit due

end Diary

end AmqpClient.Consumer
