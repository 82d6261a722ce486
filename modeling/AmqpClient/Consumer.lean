/-!
# Consumer settings

How many deliveries a consumer channel may hold unsettled, the tag it consumes
under, and the two delays of its life. Times are in milliseconds.
-/

set_option autoImplicit false

namespace AmqpClient

structure ConsumerSettings where
  /-- Unsettled deliveries handed to the channel; zero is no limit. -/
  prefetch : UInt16 := 50
  consumerTag : String := "rmq-tag"
  /-- The wait after a failed subscription or stream. -/
  resubscribeDelay : Nat := 30000
  /-- How long running handlers may take once their stream is over. -/
  drainTimeout : Nat := 10000
  deriving DecidableEq, Repr, Inhabited

end AmqpClient
