import AmqpClient.Call
import AmqpClient.Notice
import AmqpClient.Simulation.Observation
import AmqpClient.Supervisor.Basic

/-!
# Logs of a simulation

What a simulated run records: broker calls, the handling of deliveries, finished
tasks, notices and spans, each with its time. The log is ordered by time; at one
time the supervisor's calls come first, then subscriptions, then published
messages, then the events of each delivery in the order of tags.
-/

set_option autoImplicit false

namespace AmqpClient.Simulation

inductive LogEvent where
  /-- A call, with the supervisor's state if the supervisor made it. -/
  | call (call : Call) (state? : Option SupervisorState)
  /-- A published message, with its place in the order of first publications. -/
  | publish (channel : Nat) (message : OutboundMessage) (place : Nat)
  | handle (delivery : Delivery) (context : Context)
  | acknowledge (tag : Nat) (settlement : Settlement)
  | settle (tag : Nat) (settlement : Settlement) (result : Except ClientError Unit)
  | handled (tag : Nat) (result : Except ClientError Unit)

structure LogEntry where
  time : Nat
  event : LogEvent

namespace LogEvent

def group : LogEvent → Nat
  | .call (.qos ..) _ | .call (.consume ..) _ => 1
  | .call _ _ => 0
  | .publish .. => 2
  | .handle .. | .acknowledge .. | .settle .. | .handled .. => 3

/-- The delivery tag of an event; zero for other events. -/
def tag : LogEvent → Nat
  | .handle delivery _ => delivery.tag
  | .acknowledge tag _ | .settle tag _ _ | .handled tag _ => tag
  | .call .. | .publish .. => 0

end LogEvent

def LogEntry.precedes (left right : LogEntry) : Bool :=
  if left.time ≠ right.time then left.time < right.time
  else if left.event.group ≠ right.event.group then left.event.group < right.event.group
  else left.event.tag ≤ right.event.tag

/-- Entries in the order of the log. Equal entries keep their order. -/
def sortLog (entries : List LogEntry) : List LogEntry :=
  entries.mergeSort LogEntry.precedes

inductive TaskResult where
  | done
  | generation (value : Nat)
  | pending
  | confirmation (value : Confirmation)
  | failed (error : ClientError)
  deriving Inhabited

structure Completion where
  time : Nat
  label : String
  result : TaskResult
  deriving Inhabited

def sortCompletions (completions : List Completion) : List Completion :=
  completions.mergeSort fun left right =>
    if left.time ≠ right.time then left.time < right.time else left.label ≤ right.label

structure TimedNotice where
  time : Nat
  notice : Notice

structure TimedSpan where
  time : Nat
  span : Consumer.Span
  parent : Context

end AmqpClient.Simulation
