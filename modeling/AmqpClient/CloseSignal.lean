/-!
# Close signals

Every connection and every channel has one cell that records its end: the first
reason that was notified, and whether the notifying side is gone. Signals are
read-only views of the cell; each remembers which change it has seen. A cell
whose notifier is gone counts as closed even when no reason was given.
-/

set_option autoImplicit false

namespace AmqpClient

/-- The end of a connection or a channel, as its notifier has recorded it. -/
structure CloseCell where
  reason : Option String := none
  version : Nat := 0
  dropped : Bool := false
  deriving DecidableEq, Repr, Inhabited

/-- A view of a cell that has seen the changes up to a version. -/
structure CloseSignal where
  seen : Nat
  deriving DecidableEq, Repr, Inhabited

namespace CloseCell

def unexplained : String := "closed"

/-- Records a reason. Only the first one is kept. -/
def notify (reason : String) (cell : CloseCell) : CloseCell :=
  if cell.reason.isSome then cell
  else { cell with reason := some reason, version := cell.version + 1 }

def drop (cell : CloseCell) : CloseCell :=
  { cell with dropped := true }

def isClosed (cell : CloseCell) : Bool :=
  cell.reason.isSome || cell.dropped

def closed? (cell : CloseCell) : Option String :=
  cell.reason.or (if cell.dropped then some unexplained else none)

def subscribe (cell : CloseCell) : CloseSignal :=
  { seen := cell.version }

theorem isSome_closed? (cell : CloseCell) : cell.closed?.isSome = cell.isClosed := by
  cases reason : cell.reason <;> cases dropped : cell.dropped <;>
    simp [closed?, isClosed, reason, dropped]

end CloseCell

namespace CloseSignal

def hasChange (cell : CloseCell) (signal : CloseSignal) : Bool :=
  signal.seen ≠ cell.version

/-- Waits for a change after the view has caught up: a reason that came meanwhile
is read again, and an end of the notifying side without one is unexplained. -/
def awaitChange (cell : CloseCell) (signal : CloseSignal) : Option String × CloseSignal :=
  if signal.hasChange cell then (cell.reason, { seen := cell.version })
  else if cell.dropped then (some (cell.reason.getD CloseCell.unexplained), signal)
  else (none, signal)

/-- Looks at the cell once: the reason of its end, or nothing while it is open. -/
def poll (cell : CloseCell) (signal : CloseSignal) : Option String × CloseSignal :=
  let current : CloseSignal := { signal with seen := cell.version }
  match cell.reason with
  | some reason => (some reason, current)
  | none => current.awaitChange cell

end CloseSignal

/-- One cell, whose notifier may be gone, with the signals taken from it. -/
structure CloseBoard where
  cell : CloseCell := {}
  signals : List CloseSignal := [{ seen := 0 }]
  deriving DecidableEq, Repr, Inhabited

namespace CloseBoard

/-- What can be done with a notifier and its signals, which are named by position. -/
inductive Action where
  | notify (reason : String)
  | drop
  | subscribe
  | clone (on : Nat)
  | isClosed (on : Nat)
  | reason (on : Nat)
  | poll (on : Nat)
  deriving DecidableEq, Repr

inductive Outcome where
  | done
  | dropped
  | signal (index : Nat)
  | isClosed (value : Bool)
  | reason (value : Option String)
  /-- The reason of the end, or nothing while it is pending. -/
  | poll (value : Option String)
  | missing
  deriving DecidableEq, Repr

def add (signal : CloseSignal) (board : CloseBoard) : Outcome × CloseBoard :=
  (.signal board.signals.length, { board with signals := board.signals ++ [signal] })

/-- Performs one action. A notifier that is gone can do nothing more. -/
def perform (board : CloseBoard) : Action → Outcome × CloseBoard
  | .notify reason =>
    if board.cell.dropped then (.dropped, board)
    else (.done, { board with cell := board.cell.notify reason })
  | .drop => (.done, { board with cell := board.cell.drop })
  | .subscribe =>
    if board.cell.dropped then (.dropped, board) else board.add board.cell.subscribe
  | .clone on =>
    match board.signals[on]? with
    | some signal => board.add signal
    | none => (.missing, board)
  | .isClosed on =>
    match board.signals[on]? with
    | some _ => (.isClosed board.cell.isClosed, board)
    | none => (.missing, board)
  | .reason on =>
    match board.signals[on]? with
    | some _ => (.reason board.cell.reason, board)
    | none => (.missing, board)
  | .poll on =>
    match board.signals[on]? with
    | some signal =>
      let (outcome, signal) := signal.poll board.cell
      (.poll outcome, { board with signals := board.signals.set on signal })
    | none => (.missing, board)

/-- Performs actions in order; each outcome comes with the board after it. -/
def run (board : CloseBoard) : List Action → List (Outcome × CloseBoard)
  | [] => []
  | action :: rest =>
    let (outcome, board) := board.perform action
    (outcome, board) :: run board rest

end CloseBoard

end AmqpClient
