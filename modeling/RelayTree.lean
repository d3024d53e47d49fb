import RelayTree.Main
import RelayTree.Message.Json
import RelayTree.Network.Background
import RelayTree.Network.Carriage
import RelayTree.Network.Reference
import RelayTree.Proofs.Tree.Acceptance
import RelayTree.Proofs.Dispatcher.Table
import RelayTree.Proofs.Dispatcher.Coherence
import RelayTree.Proofs.Dispatcher.HalfReload
import RelayTree.Proofs.Dispatcher.Hop
import RelayTree.Proofs.Network.Delivery
import RelayTree.Proofs.Network.Flow
import RelayTree.Proofs.Dispatcher.Work
import RelayTree.Proofs.Network.Layout
import RelayTree.Proofs.Network.Operation
import RelayTree.Proofs.Network.Traffic
import RelayTree.Proofs.Network.ExactlyOnce
import RelayTree.Proofs.Tree.WellFormed
import RelayTree.Proofs.Dispatcher.Reachability
import RelayTree.Proofs.Dispatcher.FreshStart
import RelayTree.Dispatcher.Service
import RelayTree.Proofs.Dispatcher.Aside
import RelayTree.Proofs.Service.Lanes
import RelayTree.Proofs.Service.Places
import RelayTree.Proofs.Service.Phases
import RelayTree.Proofs.Service.Carrying
import RelayTree.Proofs.Service.Calls
import RelayTree.Proofs.Service.Custody
import RelayTree.Proofs.Service.Undisturbed
import RelayTree.Proofs.Queue.Draining
import RelayTree.Proofs.Switchboard.PayloadTypes
import RelayTree.Proofs.Switchboard.WriteOnce
import RelayTree.Proofs.Switchboard.Undisturbed
import RelayTree.Proofs.Dispatcher.Reports
import RelayTree.Proofs.Dispatcher.Traces
import RelayTree.Proofs.Dispatcher.Accounting
import RelayTree.Proofs.Desk.Owners
import RelayTree.Proofs.Dispatcher.Privacy
import RelayTree.Proofs.Dispatcher.Addressed
import RelayTree.Proofs.CommandLine.Check
import RelayTree.Proofs.Dispatcher.Refusals
import RelayTree.Proofs.Json.Scanning
import RelayTree.Proofs.Json.ReadBack
import RelayTree.Proofs.Json.Returned
import RelayTree.Proofs.Message.ReadBack
import RelayTree.Proofs.Deployment.ReadBack
import RelayTree.Proofs.Tree.SimplePath
import RelayTree.Proofs.Dispatcher.Parties
import RelayTree.Proofs.Desk.Users
import RelayTree.Proofs.Dispatcher.Downward
import RelayTree.Proofs.Dispatcher.FirstLookup
import RelayTree.Proofs.Tree.Preorder
import RelayTree.Proofs.Tree.Reordering
import RelayTree.Proofs.Dispatcher.Reordering
import RelayTree.Proofs.Desk.Connections
import RelayTree.Proofs.Switchboard.Changes
import RelayTree.Proofs.Switchboard.Bindings
import RelayTree.Proofs.Switchboard.FanOut
import RelayTree.Proofs.Switchboard.Batches
import RelayTree.Proofs.Switchboard.Validity
import RelayTree.Proofs.Switchboard.Runtimes
import RelayTree.Proofs.Switchboard.Halfway
import RelayTree.Proofs.Switchboard.Strays
import RelayTree.Queue.Monitor
import RelayTree.Proofs.Queue.Wakeups
import RelayTree.Tree.Arena
import RelayTree.Proofs.Tree.Walking
