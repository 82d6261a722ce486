import AmqpClient.Consumer
import AmqpClient.Consumer.Pool
import AmqpClient.Supervisor.Waiter

/-!
# The supervised consumer

A consumer takes each ready session in turn: it bounds the deliveries of the
channel, opens a stream, and lets a pool of workers handle it. When the stream is
over for whatever reason, the pool is stopped and joined; after a pause the
consumer asks for a new session and waits for one that is newer. Only a shutdown
ends it.
-/

set_option autoImplicit false

namespace AmqpClient.Consumer

structure Plan where
  queue : String
  settings : ConsumerSettings := {}
  channelTimeout : Nat
  workers : Nat
  deriving DecidableEq, Repr, Inhabited

inductive StreamExit where
  | shutdown
  | failed (reason : String)
  deriving DecidableEq, Repr, Inhabited

inductive Point where
  | entry
  | awaiting (waiter : SessionWaiter)
  | limiting (session : Session) (deadline : Nat)
  | subscribing (session : Session) (deadline : Nat)
  | streaming (session : Session)
  /-- The pool is stopped, and its workers are given time to end. -/
  | draining (generation : Nat) (exit : StreamExit) (deadline : Nat)
  /-- The workers that are left are cut off, and their ends are awaited. -/
  | aborting (generation : Nat) (exit : StreamExit)
  | pausing (generation : Nat) (deadline : Nat)
  | finished (result : Except ClientError Unit)
  deriving Inhabited

inductive Event where
  | begin
  | shutdown
  | woken
  | replied (reply : Reply)
  | connectionClosed (reason : String)
  | channelClosed (reason : String)
  | streamEnded (reason : String)
  | workerBroke (details : String)
  | joined
  | expired
  deriving Inhabited

/-- A consumer and the pool of its latest stream. -/
structure Consumption where
  point : Point := .entry
  pool : Pool := {}
  deriving Inhabited

structure Reaction where
  cells : SupervisorCells
  consumption : Consumption
  /-- Whether the interrupts of the new point are looked at before anything else. -/
  looks : Bool := false
  notices : List Notice := []
  deriving Inhabited

namespace Point

def call? (plan : Plan) : Point → Option Call
  | .limiting session _ => some (.qos session.channel plan.settings.prefetch)
  | .subscribing session _ =>
    some (.consume session.channel plan.queue plan.settings.consumerTag)
  | _ => none

def deadline? : Point → Option Nat
  | .limiting _ deadline | .subscribing _ deadline | .draining _ _ deadline
  | .pausing _ deadline => some deadline
  | .entry | .awaiting _ | .streaming _ | .aborting .. | .finished _ => none

/-- Whether a stream with a pool of its own comes with the step between two points. -/
def opensStream : Point → Point → Bool
  | .subscribing .., .streaming _ => true
  | _, _ => false

end Point

/-- The interrupt that a fresh look finds, in order of precedence. Until all workers
of a stopped pool have ended, a shutdown is not looked for. -/
def Consumption.interrupt? (signals : Signals) (cells : SupervisorCells)
    (consumption : Consumption) : Option Event :=
  let pool := consumption.pool
  match consumption.point with
  | .entry => some .begin
  | .awaiting waiter =>
    if cells.isShutDown then some .shutdown
    else if waiter.isWoken cells then some .woken
    else none
  | .limiting .. | .subscribing .. | .pausing .. =>
    if cells.isShutDown then some .shutdown else none
  | .streaming session =>
    if cells.isShutDown then some .shutdown
    else
      ((signals.connection session.connection).closed?.map Event.connectionClosed).or
        (((signals.channel session.channel).closed?.map Event.channelClosed).or
          (pool.exit?.map Event.streamEnded))
  | .draining .. =>
    match pool.broken with
    | details :: _ => some (.workerBroke details)
    | [] => if pool.isOver then some .joined else none
  | .aborting .. => if pool.isOver then some .joined else none
  | .finished _ => none

section

variable (plan : Plan) (signals : Signals) (now : Nat) (cells : SupervisorCells)

def finish (pool : Pool) (result : Except ClientError Unit) : Reaction :=
  { cells, consumption := { point := .finished result, pool } }

def pause (pool : Pool) (generation : Nat) (notices : List Notice) : Reaction :=
  { cells
    consumption :=
      { point := .pausing generation (now + plan.settings.resubscribeDelay), pool }
    looks := true
    notices }

def subscriptionFailed (pool : Pool) (session : Session) (error : ClientError) : Reaction :=
  pause plan now cells pool session.generation
    [{ level := .error, source := .dispatcher, message := "failure to create the consumer",
       error := some error.message }]

def drain (pool : Pool) (session : Session) (exit : StreamExit) : Reaction :=
  { cells
    consumption :=
      { point := .draining session.generation exit (now + plan.settings.drainTimeout)
        pool := pool.stop }
    looks := true }

def leave (pool : Pool) (generation : Nat) : StreamExit → Reaction
  | .shutdown => finish cells pool (.ok ())
  | .failed reason =>
    pause plan now cells pool generation
      [{ level := .warning, source := .dispatcher, message := "consumer stream failed",
         reason := some reason }]

def look (pool : Pool) (waiter : SessionWaiter) : Reaction :=
  match waiter.poll signals cells with
  | .error waiter => { cells, consumption := { point := .awaiting waiter, pool }, looks := true }
  | .ok (.ok session) =>
    { cells
      consumption := { point := .limiting session (now + plan.channelTimeout), pool }
      looks := true }
  | .ok (.error .shutdown) => finish cells pool (.ok ())
  | .ok (.error error) => finish cells pool (.error error)

/-- The reaction to an event. Events that cannot end the suspension leave it as it
is. -/
def react (consumption : Consumption) (event : Event) : Reaction :=
  let pool := consumption.pool
  let stay : Reaction := { cells, consumption, looks := true }
  match consumption.point with
  | .entry =>
    match event with
    | .begin =>
      { cells, consumption := { point := .awaiting { after := 0 }, pool }, looks := true }
    | _ => stay
  | .awaiting waiter =>
    match event with
    | .shutdown => finish cells pool (.ok ())
    | .woken => look plan signals now cells pool waiter
    | _ => stay
  | .limiting session _ =>
    match event with
    | .shutdown => finish cells pool (.ok ())
    | .replied (.ok _) =>
      { cells, consumption := { point := .subscribing session (now + plan.channelTimeout), pool } }
    | .replied (.error error) => subscriptionFailed plan now cells pool session error
    | .expired => subscriptionFailed plan now cells pool session .channelTimeout
    | _ => stay
  | .subscribing session _ =>
    match event with
    | .shutdown => finish cells pool (.ok ())
    | .replied (.ok answer) =>
      { cells
        consumption :=
          { point := .streaming session, pool := Pool.spawn plan.queue answer.id plan.workers }
        looks := true }
    | .replied (.error error) => subscriptionFailed plan now cells pool session error
    | .expired => subscriptionFailed plan now cells pool session .channelTimeout
    | _ => stay
  | .streaming session =>
    match event with
    | .shutdown => drain plan now cells pool session .shutdown
    | .connectionClosed reason =>
      drain plan now cells pool session (.failed ("connection closed: " ++ reason))
    | .channelClosed reason =>
      drain plan now cells pool session (.failed ("channel closed: " ++ reason))
    | .streamEnded reason => drain plan now cells pool session (.failed reason)
    | _ => stay
  | .draining generation exit _ =>
    match event with
    | .workerBroke details =>
      { stay with
        consumption := { consumption with pool := { pool with broken := pool.broken.drop 1 } }
        notices :=
          [{ level := .error, source := .dispatcher, message := "consumer worker failure",
             error := some details }] }
    | .joined => leave plan now cells pool generation exit
    | .expired =>
      { cells
        consumption := { point := .aborting generation exit, pool := pool.cancel }
        looks := true
        notices :=
          [{ level := .warning, source := .dispatcher, message := "aborting consumer workers" }] }
    | _ => stay
  | .aborting generation exit =>
    match event with
    | .joined => leave plan now cells pool generation exit
    | _ => stay
  | .pausing generation _ =>
    match event with
    | .shutdown => finish cells pool (.ok ())
    | .expired =>
      { cells := cells.requestReconnect generation
        consumption := { point := .awaiting { after := generation }, pool }
        looks := true }
    | _ => stay
  | .finished _ => stay

end

end AmqpClient.Consumer
