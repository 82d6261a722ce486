import AmqpClient.Call
import AmqpClient.Notice
import AmqpClient.Topology

/-!
# Installing a topology

The calls that put a topology in place on one channel, each chosen by the reply
to the one before: the queue is looked up and declared only when it is missing;
if exchange routing is in use, so is the exchange, and the queue is bound. The
first failure ends the work.
-/

set_option autoImplicit false

namespace AmqpClient.Topology

inductive InstallStep where
  | checkQueue
  | declareQueue
  | checkExchange
  | declareExchange
  | bindQueue
  deriving DecidableEq, Repr, Inhabited

inductive InstallProgress where
  | calling (step : InstallStep)
  | finished (result : Except ClientError Unit)
  deriving Inhabited

def InstallStep.call (topology : Topology) (channel : Nat) : InstallStep → Call
  | .checkQueue => .queueExists channel topology.queue
  | .declareQueue => .declareQueue channel topology.queue topology.queueArguments
  | .checkExchange => .exchangeExists channel topology.exchange topology.kind
  | .declareExchange =>
    .declareExchange channel topology.exchange topology.kind topology.exchangeArguments
  | .bindQueue => .bindQueue channel topology.queue topology.exchange topology.routingKey

/-- What is reported when a step fails. Failed look-ups are not reported. -/
def InstallStep.failureNotice? : InstallStep → Option String
  | .checkQueue | .checkExchange => none
  | .declareQueue => some "registration queue failed"
  | .declareExchange => some "registration exchange failed"
  | .bindQueue => some "error to bind queue to exchange"

/-- The start of an installation. A topology that is not valid is refused
without a call. -/
def beginInstall (topology : Topology) : InstallProgress :=
  match topology.validate with
  | .ok () => .calling .checkQueue
  | .error error => .finished (.error error)

/-- Once the queue is in place, the exchange follows if routing is in use. -/
def installExchange (topology : Topology) : InstallProgress :=
  if topology.usesExchange then .calling .checkExchange else .finished (.ok ())

def afterInstallStep (topology : Topology) (answer : Answer) : InstallStep → InstallProgress
  | .checkQueue => if answer.isFound then topology.installExchange else .calling .declareQueue
  | .declareQueue => topology.installExchange
  | .checkExchange => .calling (if answer.isFound then .bindQueue else .declareExchange)
  | .declareExchange => .calling .bindQueue
  | .bindQueue => .finished (.ok ())

def continueInstall (topology : Topology) (step : InstallStep) (reply : Reply) :
    InstallProgress × List Notice :=
  match reply with
  | .ok answer => (topology.afterInstallStep answer step, [])
  | .error error =>
    (.finished (.error error),
      step.failureNotice?.toList.map fun message =>
        { level := .error, source := .topology, message, error := some error.message })

end AmqpClient.Topology
