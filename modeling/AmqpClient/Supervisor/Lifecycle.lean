import AmqpClient.Supervisor.Basic

/-!
# Starting and stopping

The loop is started once, and only before a shutdown. The first shutdown wins:
it takes the loop's handle and waits for its end, or, if there is no loop, closes
the supervisor itself. Every later shutdown finds it closed already.
-/

set_option autoImplicit false

namespace AmqpClient.SupervisorCells

/-- The flag tells of a shutdown, and the handle of a loop. A handle that was taken would
not stand in the way of another loop. -/
def start (cells : SupervisorCells) : Except ClientError SupervisorCells :=
  if cells.isShutDown then .error .alreadyClosed
  else if cells.handle = .present then .error .alreadyStarted
  else .ok { cells with handle := .present }

/-- The first half of a shutdown: the flag is raised, unless it was raised before. -/
def raiseShutdown (cells : SupervisorCells) : Except ClientError SupervisorCells :=
  if cells.isShutDown then .error .alreadyClosed else .ok { cells with isShutDown := true }

/-- The second half: the handle is taken, and the loop's end is to be awaited. A
supervisor without a loop is closed at once. -/
def takeHandle (cells : SupervisorCells) : SupervisorCells :=
  match cells.handle with
  | .present => { cells with handle := .taken }
  | .absent | .taken => ((cells.setState .closing).setSession none).setState .closed

def beginShutdown (cells : SupervisorCells) : Except ClientError SupervisorCells :=
  cells.raiseShutdown.map takeHandle

end AmqpClient.SupervisorCells
