import AmqpClient.Address.Text
import AmqpClient.Config.Document
import AmqpClient.Display
import AmqpClient.Field.Document
import AmqpClient.Proofs.Client.Launch
import AmqpClient.Proofs.Client.Retrying
import AmqpClient.Proofs.Config.Merging
import AmqpClient.Proofs.Consumer.Backlog
import AmqpClient.Proofs.Consumer.Diary
import AmqpClient.Proofs.Consumer.Entries
import AmqpClient.Proofs.Consumer.Generations
import AmqpClient.Proofs.Consumer.HandingOut
import AmqpClient.Proofs.Consumer.Persistence
import AmqpClient.Proofs.Consumer.Pool
import AmqpClient.Proofs.Consumer.Record
import AmqpClient.Proofs.Consumer.Run
import AmqpClient.Proofs.Consumer.Setbacks
import AmqpClient.Proofs.Consumer.Settlement
import AmqpClient.Proofs.Consumer.Shift
import AmqpClient.Proofs.Consumer.StreamEnd
import AmqpClient.Proofs.Consumer.Truthfulness
import AmqpClient.Proofs.Consumer.WearingOut
import AmqpClient.Proofs.Endpoint.Secrecy
import AmqpClient.Proofs.Exchange.Naming
import AmqpClient.Proofs.Publisher.Crowd
import AmqpClient.Proofs.Publisher.Outcome
import AmqpClient.Proofs.Publisher.Setbacks
import AmqpClient.Proofs.Publisher.Slot
import AmqpClient.Proofs.Publisher.Writing
import AmqpClient.Proofs.Signal.Observers
import AmqpClient.Proofs.Simulation.Callers
import AmqpClient.Proofs.Simulation.Consumers
import AmqpClient.Proofs.Simulation.Deliveries
import AmqpClient.Proofs.Simulation.Loop
import AmqpClient.Proofs.Simulation.Workers
import AmqpClient.Proofs.Site.Addressing
import AmqpClient.Proofs.Site.Basic
import AmqpClient.Proofs.Site.Prefetch
import AmqpClient.Proofs.Site.Shutdown
import AmqpClient.Proofs.Site.Staleness
import AmqpClient.Proofs.Site.Station
import AmqpClient.Proofs.Supervisor.Bookkeeping
import AmqpClient.Proofs.Supervisor.Causes
import AmqpClient.Proofs.Supervisor.Handles
import AmqpClient.Proofs.Supervisor.Heeding
import AmqpClient.Proofs.Supervisor.Holding
import AmqpClient.Proofs.Supervisor.Ledger
import AmqpClient.Proofs.Supervisor.Lifecycle
import AmqpClient.Proofs.Supervisor.Moments
import AmqpClient.Proofs.Supervisor.Owners
import AmqpClient.Proofs.Supervisor.Poll
import AmqpClient.Proofs.Supervisor.Reconnect
import AmqpClient.Proofs.Supervisor.Release
import AmqpClient.Proofs.Supervisor.Routes
import AmqpClient.Proofs.Supervisor.Run
import AmqpClient.Proofs.Supervisor.Session
import AmqpClient.Proofs.Supervisor.SetUp
import AmqpClient.Proofs.Supervisor.Setbacks
import AmqpClient.Proofs.Supervisor.States
import AmqpClient.Proofs.Supervisor.Succession
import AmqpClient.Proofs.Supervisor.Trail
import AmqpClient.Proofs.Supervisor.Unwinding
import AmqpClient.Proofs.Supervisor.Waiting
import AmqpClient.Proofs.Supervisor.WindDown
import AmqpClient.Proofs.Text.Casing
import AmqpClient.Proofs.Text.Lowercase
import AmqpClient.Proofs.Text.Numeral
import AmqpClient.Proofs.Text.Trimming
import AmqpClient.Proofs.Text.Utf8
import AmqpClient.Proofs.Topology.DelayedRouting
import AmqpClient.Proofs.Topology.Holdings
import AmqpClient.Proofs.Topology.Installation
import AmqpClient.Proofs.Trace.Carrying
import AmqpClient.Proofs.Wire.Failures
import AmqpClient.Proofs.Wire.Isolation
import AmqpClient.Proofs.Wire.LookUp
import AmqpClient.Simulation.Payload
import AmqpClient.Simulation.Workbench
