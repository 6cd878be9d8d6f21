import Rdma.Boundary.Operation
import Rdma.Json.Endpoint
import Rdma.Provider.Fault
import Rdma.Fabric.Object
import Rdma.Fabric.Operation
import Rdma.Proofs.Engine.Motion
import Rdma.Proofs.Engine.Act
import Rdma.Proofs.Engine.Enact
import Rdma.Proofs.Host.Change
import Rdma.Proofs.Engine.Progress
import Rdma.Proofs.Fabric.Numbers
import Rdma.Proofs.Fabric.Creation
import Rdma.Proofs.Fabric.Destruction
import Rdma.Proofs.Host.Sound
import Rdma.Proofs.Host.Working
import Rdma.Proofs.Host.Reachable
import Rdma.Proofs.Engine.Standstill
import Rdma.Proofs.Registry
import Rdma.Verbs.Operation
import Rdma.Proofs.Verbs.Effect
import Rdma.Proofs.Host.Journal
import Rdma.Proofs.Host.Run
import Rdma.Proofs.Verbs.Mirror
import Rdma.Proofs.Verbs.Image
import Rdma.Proofs.Verbs.Teardown
import Rdma.Proofs.Verbs.Policy
import Rdma.Proofs.Transfer.Sending
import Rdma.Proofs.Transfer.Accounts
import Rdma.Proofs.Transfer.Order
import Rdma.Proofs.Transfer.Receiving
import Rdma.Proofs.Transfer.Agreement
import Rdma.Proofs.Engine.Execution
import Rdma.Proofs.Engine.Success
import Rdma.Proofs.Host.Preparation
import Rdma.Proofs.QueuePair.States
import Rdma.Proofs.Memory.Registration
import Rdma.Proofs.Memory.Protection
import Rdma.Proofs.QueuePair.Failure
import Rdma.Proofs.Completion.Delivery
import Rdma.Proofs.Completion.Life
import Rdma.Proofs.Completion.Tally
import Rdma.Proofs.Completion.Channel
import Rdma.Proofs.Completion.Custody
import Rdma.Proofs.Completion.Arming
import Rdma.Proofs.Verbs.Handles
import Rdma.Proofs.Engine.Seclusion
import Rdma.Proofs.QueuePair.Isolation
import Rdma.Proofs.Verbs.Dismantling
import Rdma.Proofs.Verbs.Custody
import Rdma.Proofs.Verbs.Refusal
import Rdma.Proofs.Boundary.Library
import Rdma.Proofs.Boundary.Record
import Rdma.Proofs.Fabric.Population
import Rdma.Proofs.Host.Capacity
import Rdma.Proofs.Host.Limits
import Rdma.Proofs.Engine.Termination
import Rdma.Proofs.Memory.Overwrite
import Rdma.Proofs.Memory.Word
import Rdma.Proofs.Host.Course
import Rdma.Proofs.Transfer.Landing
import Rdma.Proofs.Transfer.Telling
import Rdma.Proofs.Boundary.Initialisation
import Rdma.Proofs.Boundary.Failure
import Rdma.Proofs.Boundary.Result
import Rdma.Proofs.Boundary.WorkList
import Rdma.Proofs.Memory.Covering
import Rdma.Proofs.Host.Posting
import Rdma.Proofs.Transfer.Exchange
import Rdma.Proofs.Host.Counters
import Rdma.Proofs.Host.Addresses
import Rdma.Proofs.Memory.Keys
import Rdma.Proofs.Verbs.Ranges
import Rdma.Proofs.QueuePair.Connection
import Rdma.Proofs.Verbs.Connection
import Rdma.Proofs.Registry.History
import Rdma.Proofs.Verbs.Ancestry
import Rdma.Proofs.Fabric.Relocation
import Rdma.Proofs.Engine.Relocation
import Rdma.Proofs.Host.Relocation
import Rdma.Proofs.Verbs.Relocation
import Rdma.Proofs.Verbs.Hotplug
