import AmqpClient.CloseSignal
import AmqpClient.Consumer.Settling
import AmqpClient.Notice

/-!
# Worker pools

The workers of a pool share one stream of deliveries. A worker asks for the next
item only while it is the first in line, leaves the line as soon as it has one,
and runs the handler on its own. A worker that finds the stop mark when it looks
for work ends; one that meets the end of the stream or a failure says so to the
whole pool and ends too.
-/

set_option autoImplicit false

namespace AmqpClient.Consumer

inductive StreamItem where
  | delivery (delivery : Delivery)
  | failure (error : ClientError)
  | ended
  /-- The stream was asked again after its end, and broke the worker down. -/
  | overrun (details : String)
  deriving Inhabited

/-- The result of handling a delivery, as its span shows it. -/
inductive SpanStatus where
  | unset
  | ok
  | error (description : String)
  deriving DecidableEq, Repr, Inhabited

structure Span where
  name : String
  headers : FieldTable
  status : SpanStatus := .unset
  deriving Inhabited

inductive WorkerPoint where
  | idle
  | waiting
  | handling (delivery : Delivery)
  /-- The handler failed, and the broker is being told. -/
  | returning (delivery : Delivery)
  | finished
  deriving Inhabited

inductive WorkerEvent where
  | join
  | stop
  | item (item : StreamItem)
  /-- The handler has returned; the flag says whether the delivery is settled. -/
  | handled (result : Except ClientError Unit) (isSettled : Bool)
  /-- The broker has answered the worker's own settlement. -/
  | settled (result : Except ClientError Unit)
  /-- What the worker called broke down, and the worker with it. -/
  | broke (details : String)
  | abort
  deriving Inhabited

structure Pool where
  queue : String := ""
  stream : Nat := 0
  isStopped : Bool := false
  /-- Workers that have not ended are cut off wherever they wait. -/
  isCancelled : Bool := false
  ended : CloseCell := {}
  /-- The workers that want the next item, first come first. -/
  line : List Nat := []
  workers : List WorkerPoint := []
  /-- How workers broke down, as far as it is not reported yet. -/
  broken : List String := []
  deriving Inhabited

inductive WorkerNext where
  | await
  | proceed
  deriving DecidableEq, Repr, Inhabited

structure WorkerReaction where
  pool : Pool
  next : WorkerNext := .proceed
  notices : List Notice := []
  span : Option Span := none
  deriving Inhabited

namespace WorkerPoint

def isOver : WorkerPoint → Bool
  | .finished => true
  | _ => false

def delivery? : WorkerPoint → Option Delivery
  | .handling delivery | .returning delivery => some delivery
  | .idle | .waiting | .finished => none

end WorkerPoint

namespace Pool

def spawn (queue : String) (stream count : Nat) : Pool :=
  { queue, stream, workers := List.replicate (max count 1) .idle }

def worker (pool : Pool) (index : Nat) : WorkerPoint :=
  pool.workers.getD index .finished

def isOver (pool : Pool) : Bool :=
  pool.workers.all (·.isOver)

/-- Why the stream is over: what a worker said first, or the end of all workers. -/
def exit? (pool : Pool) : Option String :=
  { pool.ended with dropped := pool.isOver : CloseCell }.closed?

def stop (pool : Pool) : Pool :=
  { pool with isStopped := true }

def cancel (pool : Pool) : Pool :=
  { pool with isCancelled := true }

def isFirst (pool : Pool) (index : Nat) : Bool :=
  pool.line.head? = some index

def moveTo (point : WorkerPoint) (index : Nat) (pool : Pool) : Pool :=
  { pool with workers := pool.workers.set index point }

def leaveLine (index : Nat) (pool : Pool) : Pool :=
  { pool with line := pool.line.filter (· ≠ index) }

def interrupt? (pool : Pool) (index : Nat) : Option WorkerEvent :=
  match pool.worker index with
  | .idle => some (if pool.isStopped then .stop else .join)
  | .waiting => if pool.isStopped then some .stop else none
  | .handling _ | .returning _ | .finished => none

/-- What meets a worker whose turn has come: its end, if the pool was cancelled
meanwhile, or else an interrupt. -/
def summons? (pool : Pool) (index : Nat) : Option WorkerEvent :=
  if pool.isCancelled then
    if (pool.worker index).isOver then none else some .abort
  else pool.interrupt? index

/-- The span of a delivery: named for the message type, or else for the queue. -/
def span (pool : Pool) (delivery : Delivery) : Span :=
  { name := if delivery.kind = "" then pool.queue else delivery.kind
    headers := delivery.headers }

def failedSpan (pool : Pool) (delivery : Delivery) : Span :=
  { pool.span delivery with status := .error "handler failure" }

/-- The end of a worker that tells the pool why the stream is over. -/
def endWith (reason : String) (index : Nat) (pool : Pool) : Pool :=
  { (pool.leaveLine index).moveTo .finished index with ended := pool.ended.notify reason }

/-- The end of a worker that breaks down. Its pool is told nothing. -/
def breakDown (details : String) (index : Nat) (pool : Pool) : Pool :=
  { (pool.leaveLine index).moveTo .finished index with broken := pool.broken ++ [details] }

def takeItem (index : Nat) (pool : Pool) : StreamItem → WorkerReaction
  | .delivery delivery => { pool := (pool.leaveLine index).moveTo (.handling delivery) index }
  | .failure error =>
    { pool := pool.endWith error.message index
      notices :=
        [{ level := .error, source := .dispatcher, message := "errors consume msg",
           error := some error.message }] }
  | .ended => { pool := pool.endWith "delivery stream ended" index }
  | .overrun details => { pool := pool.breakDown details index }

/-- What follows a handler's return. A delivery that a failed handler has left
unsettled is settled by the worker. -/
def finishHandling (index : Nat) (delivery : Delivery) (isSettled : Bool) (pool : Pool) :
    Except ClientError Unit → WorkerReaction
  | .ok () =>
    { pool := pool.moveTo .idle index
      next := .await
      span := some { pool.span delivery with status := .ok } }
  | .error error =>
    let notices : List Notice :=
      [{ level := .warning, source := .consumer, message := "error whiling handling msg",
         error := some error.message }]
    if isSettled then
      { pool := pool.moveTo .idle index
        next := .await
        notices
        span := some (pool.failedSpan delivery) }
    else { pool := pool.moveTo (.returning delivery) index, notices }

def finishReturning (index : Nat) (delivery : Delivery) (pool : Pool) :
    Except ClientError Unit → WorkerReaction
  | .ok () =>
    { pool := pool.moveTo .idle index
      next := .await
      span := some (pool.failedSpan delivery) }
  | .error _ =>
    { pool := pool.moveTo .idle index
      next := .await
      notices := [{ level := .error, source := .consumer, message := "error whiling nack msg" }]
      span := some (pool.failedSpan delivery) }

def abandonedSpan? (pool : Pool) (index : Nat) : Option Span :=
  match pool.worker index with
  | .handling delivery => some (pool.span delivery)
  | .returning delivery => some (pool.failedSpan delivery)
  | .idle | .waiting | .finished => none

/-- The reaction of a worker to an event. Events that cannot end what it is doing
leave it as it is. -/
def react (pool : Pool) (index : Nat) (event : WorkerEvent) : WorkerReaction :=
  match pool.worker index, event with
  | .finished, _ => { pool }
  | _, .abort =>
    { pool := (pool.leaveLine index).moveTo .finished index, span := pool.abandonedSpan? index }
  | .idle, .stop | .waiting, .stop => { pool := (pool.leaveLine index).moveTo .finished index }
  | .idle, .join =>
    { pool := { pool.moveTo .waiting index with line := pool.line ++ [index] }, next := .await }
  | .waiting, .item item => pool.takeItem index item
  | .handling delivery, .handled result isSettled =>
    pool.finishHandling index delivery isSettled result
  | .returning delivery, .settled result => pool.finishReturning index delivery result
  | .handling _, .broke details | .returning _, .broke details =>
    { pool := pool.breakDown details index, span := pool.abandonedSpan? index }
  | _, _ => { pool }

end Pool

end AmqpClient.Consumer
