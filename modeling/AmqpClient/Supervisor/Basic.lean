import AmqpClient.CloseSignal
import AmqpClient.Call
import AmqpClient.Notice
import AmqpClient.Topology

/-!
# Supervisor cells

A supervisor keeps one connection and one channel alive. Its loop, the callers
that wait for a session and the callers that start or stop it share the cells of
this module: the state, the current session, the shutdown flag, the last request
to reconnect and whether the loop runs. Times are in milliseconds.
-/

set_option autoImplicit false

namespace AmqpClient

inductive SupervisorState where
  | disconnected
  | connecting
  | initializing
  | ready
  | closing
  | closed
  deriving DecidableEq, Repr, Inhabited

/-- What the channel is used for. A producer's channel confirms every message. -/
inductive ChannelRole where
  | producer
  | consumer
  deriving DecidableEq, Repr, Inhabited

structure SupervisorSettings where
  connectTimeout : Nat := 2000
  reconnectDelay : Nat := 5000
  /-- The pause after a failed setup of a channel. -/
  reinitDelay : Nat := 2000
  /-- The longest one step of setup or release may take. -/
  channelTimeout : Nat := 10000
  deriving DecidableEq, Repr, Inhabited

/-- A connection and a channel on it, set up completely. Each session has a
generation of its own, counted from one. -/
structure Session where
  generation : Nat
  connection : Nat
  channel : Nat
  deriving DecidableEq, Repr, Inhabited

/-- The close cells of all connections and channels. -/
structure Signals where
  connection : Nat → CloseCell
  channel : Nat → CloseCell
  deriving Inhabited

/-- A session is ready while neither its connection nor its channel is closed. -/
def Session.isReady (signals : Signals) (session : Session) : Bool :=
  !(signals.connection session.connection).isClosed && !(signals.channel session.channel).isClosed

inductive LoopHandle where
  | absent
  /-- The loop was started and nobody waits for its end. -/
  | present
  /-- The caller who shut down has taken the handle. -/
  | taken
  deriving DecidableEq, Repr, Inhabited

structure SupervisorCells where
  state : SupervisorState := .disconnected
  /-- The states that were left so far, the latest first. -/
  passed : List SupervisorState := []
  session : Option Session := none
  sessionVersion : Nat := 0
  isShutDown : Bool := false
  /-- The generation that the last request to reconnect named. -/
  requested : Nat := 0
  /-- Whether a request to reconnect waits to be looked at. -/
  hasRequest : Bool := false
  generations : Nat := 0
  handle : LoopHandle := .absent
  deriving DecidableEq, Repr, Inhabited

namespace SupervisorCells

def setSession (session : Option Session) (cells : SupervisorCells) : SupervisorCells :=
  { cells with session, sessionVersion := cells.sessionVersion + 1 }

def setState (state : SupervisorState) (cells : SupervisorCells) : SupervisorCells :=
  { cells with
    state
    -- A state that is set anew is not left.
    passed := if cells.state = state then cells.passed else cells.state :: cells.passed }

def current (signals : Signals) (cells : SupervisorCells) : Option Session :=
  cells.session.filter (·.isReady signals)

def readySession (signals : Signals) (cells : SupervisorCells) : Except ClientError Session :=
  if cells.isShutDown then .error .shutdown
  else
    match cells.current signals with
    | some session => .ok session
    | none => .error .notConnected

/-- The first half of a request to reconnect: the generation is named. -/
def nameGeneration (generation : Nat) (cells : SupervisorCells) : SupervisorCells :=
  { cells with requested := generation }

/-- The second half: the loop is woken. Requests that are not looked at yet are one. -/
def wakeLoop (cells : SupervisorCells) : SupervisorCells :=
  { cells with hasRequest := true }

/-- Asks the loop to drop the session of a generation and dial again. -/
def requestReconnect (generation : Nat) (cells : SupervisorCells) : SupervisorCells :=
  (cells.nameGeneration generation).wakeLoop

end SupervisorCells

end AmqpClient
