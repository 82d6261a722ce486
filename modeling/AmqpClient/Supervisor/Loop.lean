import AmqpClient.Supervisor.Basic
import AmqpClient.Topology.Install

/-!
# The supervisor's loop

The loop dials, sets up a channel, watches the session, and releases what it
owns before it dials again or ends. It is described by its suspension points and
by its reaction to the one event that ends each suspension.

At a point that can be interrupted, a poll of the loop looks at the interrupts
first, in a fixed order, then at the reply to the pending call, then at the
limit of the wait. A reaction leads to another point in one of two ways: through
a fresh look at the interrupts, or straight on within the same work.

The handles that the loop owns follow from its point: a connection during setup
and its pauses, a connection and a channel while a session is ready, and those
still to be closed during a release.
-/

set_option autoImplicit false

namespace AmqpClient.Supervisor

structure Plan where
  endpoint : Endpoint
  topology : Topology
  role : ChannelRole
  settings : SupervisorSettings := {}
  deriving DecidableEq, Repr, Inhabited

/-- What follows once everything to be released is released. -/
inductive Goal where
  | dial
  | setup (connection : Nat)
  | finish
  deriving DecidableEq, Repr, Inhabited

/-- The part of a channel setup that is under way. -/
inductive Stage where
  | openChannel
  | install (channel : Nat) (step : Topology.InstallStep)
  | confirmSelect (channel : Nat)
  /-- The setup failed and its channel is being closed. -/
  | discard (channel : Nat) (cause : ClientError)
  deriving DecidableEq, Repr, Inhabited

/-- Where the loop is suspended. Deadlines are points in time. -/
inductive Point where
  | entry
  | releaseChannel (channel : Nat) (connection? : Option Nat) (goal : Goal) (deadline : Nat)
  | releaseConnection (connection : Nat) (goal : Goal) (deadline : Nat)
  | dial (deadline : Nat)
  | dialPause (deadline : Nat)
  | setup (connection : Nat) (stage : Stage) (deadline : Nat)
  | setupPause (connection : Nat) (deadline : Nat)
  | ready (session : Session)
  | closed
  deriving DecidableEq, Repr, Inhabited

inductive Event where
  | begin
  | shutdown
  | connectionClosed (reason : String)
  | channelClosed (reason : String)
  | reconnect
  | replied (reply : Reply)
  | expired
  deriving Inhabited

inductive Next where
  /-- The interrupts of the point are looked at before anything else. -/
  | await (point : Point)
  | proceed (point : Point)
  deriving DecidableEq, Repr, Inhabited

structure Reaction where
  cells : SupervisorCells
  next : Next
  notices : List Notice := []
  deriving Inhabited

def warning (message reason : String) : Notice :=
  { level := .warning, source := .supervisor, message, reason := some reason }

def failure (message : String) (error : ClientError) : Notice :=
  { level := .error, source := .supervisor, message, error := some error.message }

namespace Point

def call? (plan : Plan) : Point → Option Call
  | .releaseChannel channel .. => some (.closeChannel channel)
  | .releaseConnection connection .. => some (.closeConnection connection)
  | .dial _ => some (.connect plan.endpoint)
  | .setup connection stage _ =>
    match stage with
    | .openChannel => some (.openChannel connection)
    | .install channel step => some (step.call plan.topology channel)
    | .confirmSelect channel => some (.confirmSelect channel)
    | .discard channel _ => some (.closeChannel channel)
  | .entry | .dialPause _ | .setupPause .. | .ready _ | .closed => none

def deadline? : Point → Option Nat
  | .releaseChannel _ _ _ deadline | .releaseConnection _ _ deadline | .dial deadline
  | .dialPause deadline | .setup _ _ deadline | .setupPause _ deadline => some deadline
  | .entry | .ready _ | .closed => none

/-- The interrupt that a fresh look finds, in order of precedence: a shutdown, the
end of the connection, the end of the channel, a request to reconnect. Releases
are never interrupted, and pauses and dials only by a shutdown. -/
def interrupt? (signals : Signals) (cells : SupervisorCells) : Point → Option Event
  | .entry => some .begin
  | .releaseChannel .. | .releaseConnection .. | .closed => none
  | .dial _ | .dialPause _ | .setupPause .. => if cells.isShutDown then some .shutdown else none
  | .setup connection _ _ =>
    if cells.isShutDown then some .shutdown
    else (signals.connection connection).closed?.map .connectionClosed
  | .ready session =>
    if cells.isShutDown then some .shutdown
    else
      ((signals.connection session.connection).closed?.map Event.connectionClosed).or
        (((signals.channel session.channel).closed?.map Event.channelClosed).or
          (if cells.hasRequest then some .reconnect else none))

end Point

section

variable (plan : Plan) (signals : Signals) (now : Nat)

def stepDeadline : Nat := now + plan.settings.channelTimeout

def conclude (cells : SupervisorCells) : Reaction :=
  { cells := cells.setState .closed, next := .proceed .closed }

def finish (channel? connection? : Option Nat) (cells : SupervisorCells) : Reaction :=
  let cells := (cells.setState .closing).setSession none
  match channel?, connection? with
  | some channel, _ =>
    { cells, next := .proceed (.releaseChannel channel connection? .finish (stepDeadline plan now)) }
  | none, some connection =>
    { cells, next := .proceed (.releaseConnection connection .finish (stepDeadline plan now)) }
  | none, none => conclude cells

def dial (cells : SupervisorCells) : Reaction :=
  if cells.isShutDown then finish plan now none none cells
  else
    { cells := cells.setState .connecting
      next := .await (.dial (now + plan.settings.connectTimeout)) }

def redial (connection : Nat) (cells : SupervisorCells) (notices : List Notice) : Reaction :=
  { cells, next := .proceed (.releaseConnection connection .dial (stepDeadline plan now)), notices }

/-- The report of a connection that ended before its channel was set up. -/
def lostDuringSetup (reason : String) : Notice :=
  warning "connection closed during init. reconnecting..." reason

/-- Starts to set up a channel, unless the connection is known to have ended for
a reason. -/
def setUp (connection : Nat) (cells : SupervisorCells) : Reaction :=
  let cells := cells.setState .initializing
  match (signals.connection connection).reason with
  | some reason => redial plan now connection cells [lostDuringSetup reason]
  | none => { cells, next := .await (.setup connection .openChannel (stepDeadline plan now)) }

def arrive (goal : Goal) (cells : SupervisorCells) : Reaction :=
  match goal with
  | .dial => dial plan now cells
  | .setup connection => setUp plan signals now connection cells
  | .finish => conclude cells

def dialFailed (error : ClientError) (cells : SupervisorCells) : Reaction :=
  { cells
    next := .await (.dialPause (now + plan.settings.reconnectDelay))
    notices := [failure "failed to connect. retrying..." error] }

def setupFailed (connection : Nat) (error : ClientError) (cells : SupervisorCells) : Reaction :=
  { cells
    next := .await (.setupPause connection (now + plan.settings.reinitDelay))
    notices := [failure "failed to init channel. retrying..." error] }

def discard (connection channel : Nat) (cause : ClientError) (cells : SupervisorCells)
    (notices : List Notice) : Reaction :=
  { cells
    next := .proceed (.setup connection (.discard channel cause) (stepDeadline plan now))
    notices }

def publishSession (connection channel : Nat) (cells : SupervisorCells) : Reaction :=
  let session := { generation := cells.generations + 1, connection, channel }
  let cells := { cells with generations := session.generation }
  { cells := (cells.setSession (some session)).setState .ready, next := .await (.ready session) }

/-- Goes on once the topology is in place: a producer's channel is put into
confirm mode first. -/
def installed (connection channel : Nat) (cells : SupervisorCells) : Reaction :=
  match plan.role with
  | .producer =>
    { cells
      next := .proceed (.setup connection (.confirmSelect channel) (stepDeadline plan now)) }
  | .consumer => publishSession connection channel cells

/-- Follows the installation of the topology, whose steps share one limit. -/
def continueInstall (connection channel deadline : Nat) (progress : Topology.InstallProgress)
    (cells : SupervisorCells) (notices : List Notice) : Reaction :=
  match progress with
  | .calling step =>
    { cells, next := .proceed (.setup connection (.install channel step) deadline), notices }
  | .finished (.ok ()) => installed plan now connection channel cells
  | .finished (.error error) => discard plan now connection channel error cells notices

def setupReplied (connection : Nat) (stage : Stage) (deadline : Nat) (reply : Reply)
    (cells : SupervisorCells) : Reaction :=
  match stage, reply with
  | .openChannel, .ok answer =>
    continueInstall plan now connection answer.id (stepDeadline plan now)
      plan.topology.beginInstall cells []
  | .openChannel, .error error => setupFailed plan now connection error cells
  | .install channel step, reply =>
    let (progress, notices) := plan.topology.continueInstall step reply
    continueInstall plan now connection channel deadline progress cells notices
  | .confirmSelect channel, .ok _ => publishSession connection channel cells
  | .confirmSelect channel, .error error => discard plan now connection channel error cells []
  | .discard _ cause, _ => setupFailed plan now connection cause cells

def setupExpired (connection : Nat) (stage : Stage) (cells : SupervisorCells) : Reaction :=
  match stage with
  | .openChannel => setupFailed plan now connection .channelTimeout cells
  | .install channel _ | .confirmSelect channel =>
    discard plan now connection channel .channelTimeout cells []
  | .discard _ cause => setupFailed plan now connection cause cells

/-- Leaves a ready session, or stays if the request was not meant for it. The
session is withdrawn before anything is released. -/
def leaveReady (session : Session) (event : Event) (cells : SupervisorCells) : Reaction :=
  let withdrawn := cells.setSession none
  let deadline := stepDeadline plan now
  let reconnect : Point := .releaseChannel session.channel (some session.connection) .dial deadline
  match event with
  | .shutdown => finish plan now (some session.channel) (some session.connection) withdrawn
  | .connectionClosed reason =>
    { cells := withdrawn
      next := .proceed reconnect
      notices := [warning "connection closed. reconnecting..." reason] }
  | .channelClosed reason =>
    { cells := withdrawn
      next :=
        .proceed (.releaseChannel session.channel none (.setup session.connection) deadline)
      notices := [warning "channel closed. re-running init..." reason] }
  | .reconnect =>
    let looked := { cells with hasRequest := false }
    if looked.requested = session.generation then
      { cells := looked.setSession none, next := .proceed reconnect }
    else { cells := looked, next := .await (.ready session) }
  | .begin | .replied _ | .expired => { cells, next := .await (.ready session) }

/-- The reaction to an event at a point. Events that cannot end the suspension
leave it as it is. -/
def react (cells : SupervisorCells) (point : Point) (event : Event) : Reaction :=
  let stay : Reaction := { cells, next := .await point }
  match point with
  | .entry =>
    match event with
    | .begin => dial plan now cells
    | _ => stay
  | .releaseChannel _ connection? goal _ =>
    match event with
    | .replied _ | .expired =>
      match connection? with
      | some connection =>
        { cells, next := .proceed (.releaseConnection connection goal (stepDeadline plan now)) }
      | none => arrive plan signals now goal cells
    | _ => stay
  | .releaseConnection _ goal _ =>
    match event with
    | .replied _ | .expired => arrive plan signals now goal cells
    | _ => stay
  | .dial _ =>
    match event with
    | .shutdown => finish plan now none none cells
    | .replied (.ok answer) => setUp plan signals now answer.id cells
    | .replied (.error error) => dialFailed plan now error cells
    | .expired => dialFailed plan now .connectTimeout cells
    | _ => stay
  | .dialPause _ =>
    match event with
    | .shutdown => finish plan now none none cells
    | .expired => dial plan now cells
    | _ => stay
  | .setup connection stage deadline =>
    match event with
    | .shutdown => finish plan now none (some connection) cells
    | .connectionClosed reason => redial plan now connection cells [lostDuringSetup reason]
    | .replied reply => setupReplied plan now connection stage deadline reply cells
    | .expired => setupExpired plan now connection stage cells
    | _ => stay
  | .setupPause connection _ =>
    match event with
    | .shutdown => finish plan now none (some connection) cells
    | .expired => setUp plan signals now connection cells
    | _ => stay
  | .ready session => leaveReady plan now session event cells
  | .closed => stay

end

end AmqpClient.Supervisor
