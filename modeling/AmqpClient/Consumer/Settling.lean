import AmqpClient.Message

/-!
# Settling a delivery

All copies of a delivery share one flag. The first settlement raises it and goes
to the broker; every later one is answered at once and changes nothing.
-/

set_option autoImplicit false

namespace AmqpClient

inductive SettlementRoute where
  /-- The delivery was settled before; the answer is a success. -/
  | answered
  | forwarded (settlement : Settlement)
  deriving DecidableEq, Repr, Inhabited

/-- Settles a delivery whose flag is given: the route of the settlement and the
flag after it. -/
def settle (isSettled : Bool) (settlement : Settlement) : SettlementRoute × Bool :=
  (if isSettled then .answered else .forwarded settlement, true)

/-- How a worker settles a delivery whose handler failed: back to the queue the
first time, away for good when it comes again. -/
def Delivery.automaticSettlement (delivery : Delivery) : Settlement :=
  .nack (!delivery.redelivered)

/-- The flag after settlements in order, with what was forwarded to the broker. -/
def settleAll (isSettled : Bool) : List Settlement → List Settlement × Bool
  | [] => ([], isSettled)
  | settlement :: rest =>
    let (route, isSettled) := settle isSettled settlement
    let (forwarded, isSettled) := settleAll isSettled rest
    match route with
    | .answered => (forwarded, isSettled)
    | .forwarded settlement => (settlement :: forwarded, isSettled)

end AmqpClient
