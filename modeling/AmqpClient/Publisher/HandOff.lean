import AmqpClient.Publisher.Basic

/-!
# Publishing once

A hand-off writes its message once and gives the caller the confirmation to wait
for. It needs a ready session, claims its confirmation slot and passes the claim
on with the confirmation, so that the slot stays taken until the caller has seen
the confirmation or dropped it.
-/

set_option autoImplicit false

namespace AmqpClient.Publisher.HandOff

inductive Point where
  | entry
  | claiming (session : Session)
  | publishing (session : Session) (deadline : Nat)
  /-- The number of the confirmation, or the failure. -/
  | finished (result : Except ClientError Nat)
  deriving Inhabited

inductive Event where
  | begin
  | shutdown
  | granted
  | replied (reply : Reply)
  | expired
  deriving Inhabited

inductive Next where
  /-- The interrupts of the point are looked at before anything else. -/
  | await (point : Point)
  | proceed (point : Point)
  deriving Inhabited

structure Reaction where
  claims : Claims
  next : Next
  notices : List Notice := []
  deriving Inhabited

namespace Point

def call? (plan : Plan) : Point → Option Call
  | .publishing session _ => some (.publish session.channel plan.message)
  | _ => none

def deadline? : Point → Option Nat
  | .publishing _ deadline => some deadline
  | .entry | .claiming _ | .finished _ => none

/-- The interrupt that a fresh look finds: a shutdown before a granted slot. -/
def interrupt? (cells : SupervisorCells) (claims : Claims) (ticket : Nat) : Point → Option Event
  | .entry => some .begin
  | .claiming session =>
    if cells.isShutDown then some .shutdown
    else if claims.holder? session.generation = some ticket then some .granted
    else none
  | .publishing .. => if cells.isShutDown then some .shutdown else none
  | .finished _ => none

end Point

section

variable (plan : Plan) (signals : Signals) (cells : SupervisorCells) (now ticket : Nat)

def fail (error : ClientError) (notices : List Notice) (claims : Claims) : Reaction :=
  { claims := claims.release ticket, next := .proceed (.finished (.error error)), notices }

def begin (claims : Claims) : Reaction :=
  match cells.readySession signals with
  | .ok session =>
    { claims := claims.claim session.generation ticket, next := .await (.claiming session) }
  | .error error => fail ticket error [] claims

def replied (reply : Reply) (claims : Claims) : Reaction :=
  match reply with
  | .ok answer => { claims, next := .proceed (.finished (.ok answer.id)) }
  | .error error => fail ticket error [writeFailed error] claims

/-- The reaction to an event at a point. Events that cannot end the suspension
leave it as it is. -/
def react (claims : Claims) (point : Point) (event : Event) : Reaction :=
  let stay : Reaction := { claims, next := .await point }
  match point with
  | .entry =>
    match event with
    | .begin => begin signals cells ticket claims
    | _ => stay
  | .claiming session =>
    match event with
    | .shutdown => fail ticket .shutdown [] claims
    | .granted => { claims, next := .proceed (.publishing session (now + plan.channelTimeout)) }
    | _ => stay
  | .publishing .. =>
    match event with
    | .shutdown => fail ticket .shutdown [] claims
    | .replied reply => replied ticket reply claims
    | .expired => replied ticket (.error .channelTimeout) claims
    | _ => stay
  | .finished _ => stay

end

end AmqpClient.Publisher.HandOff
