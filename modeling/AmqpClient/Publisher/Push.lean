import AmqpClient.Publisher.Basic

/-!
# Pushing until confirmed

A push keeps its message until the broker takes responsibility for it: each
attempt takes the current ready session, claims its confirmation slot, writes the
message and awaits the confirmation. A refusal or a missing confirmation leads to
the next attempt at once, a failure after a pause. Only a shutdown ends the push
without a confirmation, and only the very first look for a session can fail.
-/

set_option autoImplicit false

namespace AmqpClient.Publisher.Push

/-- Where a push is suspended. From `claiming` on until the confirmation, the push
has a claim on the slot of its session. -/
inductive Point where
  | entry
  | claiming (session : Session)
  | publishing (session : Session) (deadline : Nat)
  | confirming (session : Session) (confirmation : Nat) (deadline : Nat)
  | pausing (deadline : Nat)
  | finished (result : Except ClientError Unit)
  deriving Inhabited

inductive Event where
  | begin
  | shutdown
  | granted
  | replied (reply : Reply)
  | confirmed (outcome : Except ClientError Confirmation)
  | expired
  deriving Inhabited

inductive Next where
  /-- The interrupts of the point are looked at before anything else. -/
  | await (point : Point)
  | proceed (point : Point)
  deriving Inhabited

structure Reaction where
  claims : Claims
  next : Next
  notices : List Notice := []
  deriving Inhabited

namespace Point

def call? (plan : Plan) : Point → Option Call
  | .publishing session _ => some (.publish session.channel plan.message)
  | _ => none

def confirmation? : Point → Option Nat
  | .confirming _ confirmation _ => some confirmation
  | _ => none

def deadline? : Point → Option Nat
  | .publishing _ deadline | .confirming _ _ deadline | .pausing deadline => some deadline
  | .entry | .claiming _ | .finished _ => none

/-- The interrupt that a fresh look finds: a shutdown before a granted slot. -/
def interrupt? (cells : SupervisorCells) (claims : Claims) (ticket : Nat) : Point → Option Event
  | .entry => some .begin
  | .claiming session =>
    if cells.isShutDown then some .shutdown
    else if claims.holder? session.generation = some ticket then some .granted
    else none
  | .publishing .. | .confirming .. | .pausing _ =>
    if cells.isShutDown then some .shutdown else none
  | .finished _ => none

end Point

section

variable (plan : Plan) (signals : Signals) (cells : SupervisorCells) (now ticket : Nat)

def finish (result : Except ClientError Unit) (claims : Claims) : Reaction :=
  { claims := claims.release ticket, next := .proceed (.finished result) }

def pause (notices : List Notice) (claims : Claims) : Reaction :=
  { claims := claims.release ticket, next := .await (.pausing (now + plan.resendDelay)), notices }

def attempt (claims : Claims) (notices : List Notice) : Reaction :=
  match cells.readySession signals with
  | .ok session =>
    { claims := claims.claim session.generation ticket, next := .await (.claiming session), notices }
  | .error .shutdown => { finish ticket (.error .shutdown) claims with notices }
  | .error error => pause plan now ticket (notices ++ [attemptFailed error]) claims

def begin (claims : Claims) : Reaction :=
  match cells.readySession signals with
  | .ok _ => attempt plan signals cells now ticket claims []
  | .error error => finish ticket (.error error) claims

def retry (claims : Claims) : Reaction :=
  attempt plan signals cells now ticket (claims.release ticket) [unconfirmed none]

def replied (session : Session) (reply : Reply) (claims : Claims) : Reaction :=
  match reply with
  | .ok answer =>
    { claims, next := .await (.confirming session answer.id (now + plan.resendDelay)) }
  | .error error => pause plan now ticket [writeFailed error, attemptFailed error] claims

def confirmed (outcome : Except ClientError Confirmation) (claims : Claims) : Reaction :=
  match outcome with
  | .ok .ack | .ok .notRequested => finish ticket (.ok ()) claims
  | .ok .nack => retry plan signals cells now ticket claims
  | .error error => pause plan now ticket [unconfirmed (some error)] claims

/-- The reaction to an event at a point. Events that cannot end the suspension
leave it as it is. -/
def react (claims : Claims) (point : Point) (event : Event) : Reaction :=
  let stay : Reaction := { claims, next := .await point }
  match point with
  | .entry =>
    match event with
    | .begin => begin plan signals cells now ticket claims
    | _ => stay
  | .claiming session =>
    match event with
    | .shutdown => finish ticket (.error .shutdown) claims
    | .granted => { claims, next := .proceed (.publishing session (now + plan.channelTimeout)) }
    | _ => stay
  | .publishing session _ =>
    match event with
    | .shutdown => finish ticket (.error .shutdown) claims
    | .replied reply => replied plan now ticket session reply claims
    | .expired => replied plan now ticket session (.error .channelTimeout) claims
    | _ => stay
  | .confirming .. =>
    match event with
    | .shutdown => finish ticket (.error .shutdown) claims
    | .confirmed outcome => confirmed plan signals cells now ticket outcome claims
    | .expired => retry plan signals cells now ticket claims
    | _ => stay
  | .pausing _ =>
    match event with
    | .shutdown => finish ticket (.error .shutdown) claims
    | .expired => attempt plan signals cells now ticket claims []
    | _ => stay
  | .finished _ => stay

end

end AmqpClient.Publisher.Push
