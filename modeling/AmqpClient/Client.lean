import AmqpClient.Config
import AmqpClient.Publisher.Basic
import AmqpClient.Supervisor.Lifecycle
import AmqpClient.Supervisor.Loop

/-!
# Clients

A producer or a consumer built from a configuration. Everything the
configuration can get wrong is found here, the endpoint first, and nothing is
started unless all of it is right.
-/

set_option autoImplicit false

namespace AmqpClient

/-- A supervisor that is not started: its plan, once the topology is valid. -/
def Supervisor.Plan.build (endpoint : Endpoint) (topology : Topology) (role : ChannelRole)
    (settings : SupervisorSettings) : Except ClientError Supervisor.Plan := do
  topology.validate
  return { endpoint, topology, role, settings }

structure Client where
  plan : Supervisor.Plan
  cells : SupervisorCells
  /-- The handlers that a consumer runs at a time. -/
  workers : Nat
  deriving DecidableEq, Repr

namespace Client

def start [AddressParser] (config : Config) (role : ChannelRole) (settings : SupervisorSettings) :
    Except ClientError Client := do
  let endpoint ← config.endpoint
  let topology ← config.topology
  let plan ← Supervisor.Plan.build endpoint topology role settings
  let cells ← ({} : SupervisorCells).start
  return { plan, cells, workers := config.workers }

end Client

end AmqpClient
