import AmqpClient.Publisher.HandOff
import AmqpClient.Publisher.Push
import Mathlib.Logic.Function.Basic
import Mathlib.Logic.Relation

/-!
# Callers of a publisher

Any number of callers push messages, hand them off and wait for confirmations.
Their steps come in any order, and between them sessions come and go and time
passes. The broker answers a write with anything of the right form, fails it or
never answers; a confirmation comes with any outcome, is lost or never comes.
Every caller may give up whatever it is doing at any time.
-/

set_option autoImplicit false

namespace AmqpClient.Publisher

/-- What all messages of a publisher have in common. -/
structure Desk where
  topology : Topology
  settings : PublisherSettings := {}
  channelTimeout : Nat

/-- What is to be published, and how. -/
inductive Content where
  | raw (payload : Bytes)
  /-- A value for JSON: its text, or why it has none. -/
  | json (serialized : Except String Bytes)
  /-- Written once; the caller gets the confirmation to wait for. -/
  | handOff (payload : Bytes)

structure Request where
  content : Content
  priority : UInt8
  trace : List (String × String) := []

inductive Errand where
  | push (plan : Plan) (point : Push.Point)
  | handOff (plan : Plan) (point : HandOff.Point)
  /-- A message was handed off, and its confirmation has neither come nor been dropped. -/
  | confirmation (session : Session) (id : Nat)
  /-- The value had no JSON form. -/
  | refused

inductive Mark where
  | called (call : Call)
  | returned (call : Call) (reply : Reply)
  /-- A call was given up at the limit of its wait. -/
  | cutOff (call : Call)
  /-- A confirmation came, or was lost. -/
  | heard (confirmation : Nat) (outcome : Except ClientError Confirmation)
  /-- A confirmation was given up at the limit of its wait. -/
  | unheard (confirmation : Nat)

structure Caller where
  errand : Errand
  marks : List Mark := []

/-- All callers, known by the tickets that they drew on arrival, and what is around them. -/
structure Crowd where
  signals : Signals := { connection := fun _ => {}, channel := fun _ => {} }
  cells : SupervisorCells := {}
  now : Nat := 0
  claims : Claims := []
  callers : Nat → Option Caller := fun _ => none
  arrivals : Nat := 0

/-! ## What callers ask for -/

namespace Desk

def plan (desk : Desk) (request : Request) (payload : Bytes) (contentType : String)
    (id : MessageId) : Plan :=
  { message := message desk.topology payload contentType request.priority id request.trace
    resendDelay := desk.settings.resendDelay
    channelTimeout := desk.channelTimeout }

/-- What a request starts as. A value is serialized before anything else is done. -/
def errand (desk : Desk) (request : Request) (id : MessageId) : Errand :=
  match request.content with
  | .raw payload => .push (desk.plan request payload textContentType id) .entry
  | .json (.ok payload) => .push (desk.plan request payload jsonContentType id) .entry
  | .json (.error _) => .refused
  | .handOff payload => .handOff (desk.plan request payload textContentType id) .entry

end Desk

/-! ## What happens to one caller -/

namespace Push

def Next.point : Next → Point
  | .await point | .proceed point => point

/-- Whether an event can meet a push. Which one of several comes first is left open. -/
inductive Occurs (plan : Plan) (cells : SupervisorCells) (claims : Claims) (now ticket : Nat)
    (point : Point) : Event → Prop where
  | interrupt {event : Event} : point.interrupt? cells claims ticket = some event →
      Occurs plan cells claims now ticket point event
  | reply {call : Call} (reply : Reply) : point.call? plan = some call →
      (∀ answer, reply = .ok answer → answer.answers call = true) →
      Occurs plan cells claims now ticket point (.replied reply)
  | confirm {id : Nat} (outcome : Except ClientError Confirmation) :
      point.confirmation? = some id →
      Occurs plan cells claims now ticket point (.confirmed outcome)
  | expire {deadline : Nat} : point.deadline? = some deadline → deadline ≤ now →
      Occurs plan cells claims now ticket point .expired

def endMarks (plan : Plan) (point : Point) (event : Event) : List Mark :=
  match event with
  | .replied reply => (point.call? plan).toList.map (.returned · reply)
  | .confirmed outcome => point.confirmation?.toList.map (.heard · outcome)
  | .expired =>
    (point.call? plan).toList.map .cutOff ++ point.confirmation?.toList.map .unheard
  | .begin | .shutdown | .granted => []

/-- A call that work goes on with is made at once. -/
def startMarks (plan : Plan) (next : Next) : List Mark :=
  match next with
  | .proceed point => (point.call? plan).toList.map .called
  | .await _ => []

end Push

namespace HandOff

def Next.point : Next → Point
  | .await point | .proceed point => point

/-- Whether an event can meet a hand-off. Which one of several comes first is left open. -/
inductive Occurs (plan : Plan) (cells : SupervisorCells) (claims : Claims) (now ticket : Nat)
    (point : Point) : Event → Prop where
  | interrupt {event : Event} : point.interrupt? cells claims ticket = some event →
      Occurs plan cells claims now ticket point event
  | reply {call : Call} (reply : Reply) : point.call? plan = some call →
      (∀ answer, reply = .ok answer → answer.answers call = true) →
      Occurs plan cells claims now ticket point (.replied reply)
  | expire {deadline : Nat} : point.deadline? = some deadline → deadline ≤ now →
      Occurs plan cells claims now ticket point .expired

end HandOff

/-- What a hand-off goes on as: once written, only its confirmation is left. -/
def Errand.afterHandOff (plan : Plan) (before after : HandOff.Point) : Errand :=
  match before, after with
  | .publishing session _, .finished (.ok id) => .confirmation session id
  | _, after => .handOff plan after

/-! ## Steps -/

namespace Crowd

def put (ticket : Nat) (caller? : Option Caller) (claims : Claims) (crowd : Crowd) : Crowd :=
  { crowd with claims, callers := Function.update crowd.callers ticket caller? }

/-- A new caller comes. Its message gets an identity of its own. -/
def welcome (desk : Desk) (request : Request) (crowd : Crowd) : Crowd :=
  let caller : Caller := { errand := desk.errand request (.fresh crowd.arrivals) }
  { crowd.put crowd.arrivals (some caller) crowd.claims with arrivals := crowd.arrivals + 1 }

def stepPush (ticket : Nat) (plan : Plan) (point : Push.Point) (marks : List Mark)
    (event : Push.Event) (crowd : Crowd) : Crowd :=
  let reaction :=
    Push.react plan crowd.signals crowd.cells crowd.now ticket crowd.claims point event
  let caller : Caller :=
    { errand := .push plan reaction.next.point
      marks := marks ++ Push.endMarks plan point event ++ Push.startMarks plan reaction.next }
  crowd.put ticket (some caller) reaction.claims

def stepHandOff (ticket : Nat) (plan : Plan) (point : HandOff.Point) (event : HandOff.Event)
    (crowd : Crowd) : Crowd :=
  let reaction :=
    HandOff.react plan crowd.signals crowd.cells crowd.now ticket crowd.claims point event
  let caller : Caller := { errand := .afterHandOff plan point reaction.next.point }
  crowd.put ticket (some caller) reaction.claims

def dismiss (ticket : Nat) (crowd : Crowd) : Crowd :=
  crowd.put ticket none (crowd.claims.release ticket)

theorem callers_put (ticket other : Nat) (caller? : Option Caller) (claims : Claims)
    (crowd : Crowd) :
    (crowd.put ticket caller? claims).callers other =
      if other = ticket then caller? else crowd.callers other :=
  Function.update_apply _ _ _ _

@[simp] theorem claims_put (ticket : Nat) (caller? : Option Caller) (claims : Claims)
    (crowd : Crowd) : (crowd.put ticket caller? claims).claims = claims := rfl

theorem callers_welcome (desk : Desk) (request : Request) (crowd : Crowd) (other : Nat) :
    (crowd.welcome desk request).callers other =
      if other = crowd.arrivals then
        some { errand := desk.errand request (.fresh crowd.arrivals) }
      else crowd.callers other :=
  Function.update_apply _ _ _ _

end Crowd

inductive Step (desk : Desk) : Crowd → Crowd → Prop where
  /-- The supervisor, the broker and time go on. A shutdown is never taken back. -/
  | around (crowd : Crowd) (signals : Signals) (cells : SupervisorCells) (milliseconds : Nat) :
      (crowd.cells.isShutDown = true → cells.isShutDown = true) →
      Step desk crowd { crowd with signals, cells, now := crowd.now + milliseconds }
  | arrive (crowd : Crowd) (request : Request) : Step desk crowd (crowd.welcome desk request)
  | push {crowd : Crowd} (ticket : Nat) {plan : Plan} {point : Push.Point} {marks : List Mark}
      {event : Push.Event} :
      crowd.callers ticket = some { errand := .push plan point, marks } →
      Push.Occurs plan crowd.cells crowd.claims crowd.now ticket point event →
      Step desk crowd (crowd.stepPush ticket plan point marks event)
  | handOff {crowd : Crowd} (ticket : Nat) {plan : Plan} {point : HandOff.Point}
      {marks : List Mark} {event : HandOff.Event} :
      crowd.callers ticket = some { errand := .handOff plan point, marks } →
      HandOff.Occurs plan crowd.cells crowd.claims crowd.now ticket point event →
      Step desk crowd (crowd.stepHandOff ticket plan point event)
  /-- A confirmation that was handed to a caller resolves, whatever its outcome. -/
  | resolve {crowd : Crowd} {ticket id : Nat} {session : Session} {marks : List Mark} :
      crowd.callers ticket = some { errand := .confirmation session id, marks } →
      Step desk crowd (crowd.dismiss ticket)
  /-- A caller drops what it is doing, or the confirmation that it was handed. -/
  | drop {crowd : Crowd} {ticket : Nat} {caller : Caller} :
      crowd.callers ticket = some caller → Step desk crowd (crowd.dismiss ticket)

abbrev Steps (desk : Desk) : Crowd → Crowd → Prop :=
  Relation.ReflTransGen (Step desk)

def Reachable (desk : Desk) (crowd : Crowd) : Prop :=
  Steps desk {} crowd

/-! ## A publisher with a session -/

def oneDesk : Desk :=
  { topology := .ofQueue "jobs", channelTimeout := 10000 }

def oneSession : SupervisorCells :=
  { session := some { generation := 1, connection := 0, channel := 0 } }

theorem reachable_oneSession : Reachable oneDesk { cells := oneSession } :=
  .single (.around {} _ oneSession 0 id)

end AmqpClient.Publisher
