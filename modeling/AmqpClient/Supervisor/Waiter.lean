import AmqpClient.Supervisor.Basic

/-!
# Waiting for a session

A caller who waits for a ready session newer than a generation. It looks at the
session cell, remembers which write it has seen, and looks again after the next
write; a shutdown ends the wait.
-/

set_option autoImplicit false

namespace AmqpClient

structure SessionWaiter where
  /-- Only sessions of a later generation are wanted. -/
  after : Nat
  /-- The last write to the session cell that was looked at, once one was. -/
  seen : Option Nat := none
  deriving DecidableEq, Repr, Inhabited

namespace SessionWaiter

def candidate? (signals : Signals) (cells : SupervisorCells) (waiter : SessionWaiter) :
    Option Session :=
  cells.session.filter fun session =>
    decide (waiter.after < session.generation) && session.isReady signals

/-- Whether there is something to look at: a shutdown, or a write not yet seen. -/
def isWoken (cells : SupervisorCells) (waiter : SessionWaiter) : Bool :=
  cells.isShutDown || waiter.seen ≠ some cells.sessionVersion

/-- Looks at the cells once: the end of the wait, or a waiter that has seen the
current session. -/
def poll (signals : Signals) (cells : SupervisorCells) (waiter : SessionWaiter) :
    Except SessionWaiter (Except ClientError Session) :=
  if cells.isShutDown then .ok (.error .shutdown)
  else if waiter.isWoken cells then
    match waiter.candidate? signals cells with
    | some session => .ok (.ok session)
    | none => .error { waiter with seen := some cells.sessionVersion }
  else .error waiter

end SessionWaiter

end AmqpClient
