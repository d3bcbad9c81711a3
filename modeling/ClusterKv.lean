import ClusterKv.Assoc
import ClusterKv.Bootstrap
import ClusterKv.Bytes
import ClusterKv.Client.Call
import ClusterKv.Client.KeyCall
import ClusterKv.Client.Result
import ClusterKv.Client.Session
import ClusterKv.Cluster.Admin
import ClusterKv.Cluster.Basic
import ClusterKv.Cluster.InPlace
import ClusterKv.Cluster.Node
import ClusterKv.Command
import ClusterKv.CommandLine.Arguments
import ClusterKv.CommandLine.Invocation
import ClusterKv.CommandLine.Program
import ClusterKv.Config.Basic
import ClusterKv.Config.Document
import ClusterKv.Config.Words
import ClusterKv.Crc32
import ClusterKv.Dispatcher.Basic
import ClusterKv.Dispatcher.Transition
import ClusterKv.Dispatcher.Turn
import ClusterKv.Error
import ClusterKv.Json.Basic
import ClusterKv.Json.Number
import ClusterKv.Json.Reader
import ClusterKv.Json.Skip
import ClusterKv.Json.Text
import ClusterKv.Json.Writer
import ClusterKv.Link
import ClusterKv.Main
import ClusterKv.Operation
import ClusterKv.Pool
import ClusterKv.Proofs.Assoc
import ClusterKv.Proofs.Cluster.Answers
import ClusterKv.Proofs.Cluster.Controls
import ClusterKv.Proofs.Cluster.Holdings
import ClusterKv.Proofs.Cluster.Mirror
import ClusterKv.Proofs.Cluster.OptimisticLock
import ClusterKv.Proofs.Cluster.Rebalancing
import ClusterKv.Proofs.Cluster.Tables
import ClusterKv.Proofs.Cluster.Watching
import ClusterKv.Proofs.Cluster.Whereabouts
import ClusterKv.Proofs.CommandLine.Flags
import ClusterKv.Proofs.CommandLine.Words
import ClusterKv.Proofs.Config.Backoff
import ClusterKv.Proofs.Config.Files
import ClusterKv.Proofs.Crc32
import ClusterKv.Proofs.Dispatcher.Attempts
import ClusterKv.Proofs.Dispatcher.Bookkeeping
import ClusterKv.Proofs.Dispatcher.Budgets
import ClusterKv.Proofs.Dispatcher.Capacity
import ClusterKv.Proofs.Dispatcher.Carriers
import ClusterKv.Proofs.Dispatcher.Conservation
import ClusterKv.Proofs.Dispatcher.Deadlines
import ClusterKv.Proofs.Dispatcher.Deals
import ClusterKv.Proofs.Dispatcher.Directions
import ClusterKv.Proofs.Dispatcher.Drains
import ClusterKv.Proofs.Dispatcher.Endings
import ClusterKv.Proofs.Dispatcher.Interleaving
import ClusterKv.Proofs.Dispatcher.Isolation
import ClusterKv.Proofs.Dispatcher.Lone
import ClusterKv.Proofs.Dispatcher.Moves
import ClusterKv.Proofs.Dispatcher.Notes
import ClusterKv.Proofs.Dispatcher.Numbering
import ClusterKv.Proofs.Dispatcher.Parking
import ClusterKv.Proofs.Dispatcher.Places
import ClusterKv.Proofs.Dispatcher.Precedence
import ClusterKv.Proofs.Dispatcher.Queueing
import ClusterKv.Proofs.Dispatcher.Refreshes
import ClusterKv.Proofs.Dispatcher.Responses
import ClusterKv.Proofs.Dispatcher.Retirement
import ClusterKv.Proofs.Dispatcher.Retries
import ClusterKv.Proofs.Dispatcher.Run
import ClusterKv.Proofs.Dispatcher.Settled
import ClusterKv.Proofs.Dispatcher.Timers
import ClusterKv.Proofs.Dispatcher.Tracking
import ClusterKv.Proofs.Dispatcher.Turns
import ClusterKv.Proofs.Json.Numbers
import ClusterKv.Proofs.Json.Texts
import ClusterKv.Proofs.Json.Values
import ClusterKv.Proofs.Pool.Callers
import ClusterKv.Proofs.Pool.Closing
import ClusterKv.Proofs.Pool.Connects
import ClusterKv.Proofs.Pool.Slots
import ClusterKv.Proofs.Pool.Traffic
import ClusterKv.Proofs.Publishing
import ClusterKv.Proofs.Routing
import ClusterKv.Proofs.Simulation.Admission
import ClusterKv.Proofs.Simulation.Chores
import ClusterKv.Proofs.Simulation.Convergence
import ClusterKv.Proofs.Simulation.Courses
import ClusterKv.Proofs.Simulation.Deeds
import ClusterKv.Proofs.Simulation.Errands
import ClusterKv.Proofs.Simulation.Flushes
import ClusterKv.Proofs.Simulation.Flushing
import ClusterKv.Proofs.Simulation.Front
import ClusterKv.Proofs.Simulation.Histories
import ClusterKv.Proofs.Simulation.Line
import ClusterKv.Proofs.Simulation.Numbers
import ClusterKv.Proofs.Simulation.Orders
import ClusterKv.Proofs.Simulation.Phases
import ClusterKv.Proofs.Simulation.Progress
import ClusterKv.Proofs.Simulation.Promptness
import ClusterKv.Proofs.Simulation.Refinement
import ClusterKv.Proofs.Simulation.Serial
import ClusterKv.Proofs.Simulation.Shutdown
import ClusterKv.Proofs.Simulation.Steps
import ClusterKv.Proofs.Simulation.Tickets
import ClusterKv.Proofs.Simulation.Work
import ClusterKv.Proofs.Simulation.Writing
import ClusterKv.Proofs.Store.Answers
import ClusterKv.Proofs.Store.Atomicity
import ClusterKv.Proofs.Store.Counters
import ClusterKv.Proofs.Store.Expiry
import ClusterKv.Proofs.Store.Freshness
import ClusterKv.Proofs.Store.Lifetimes
import ClusterKv.Proofs.Store.Limits
import ClusterKv.Proofs.Store.Locks
import ClusterKv.Proofs.Store.Runs
import ClusterKv.Proofs.Store.Sizes
import ClusterKv.Proofs.Store.Stamps
import ClusterKv.Proofs.Store.Verdicts
import ClusterKv.Proofs.Text.Decimal
import ClusterKv.Proofs.Topology.Acceptance
import ClusterKv.Proofs.Topology.Documents
import ClusterKv.Proofs.Topology.Inverse
import ClusterKv.Proofs.Topology.Listings
import ClusterKv.Proofs.Topology.Parts
import ClusterKv.Proofs.Topology.RoundTrip
import ClusterKv.Proofs.Wire.Elements
import ClusterKv.Proofs.Wire.Frames
import ClusterKv.Proofs.Wire.Handshake
import ClusterKv.Proofs.Wire.Messages
import ClusterKv.Proofs.Wire.Outbound
import ClusterKv.Refresher
import ClusterKv.Routing
import ClusterKv.Simulation.Calls
import ClusterKv.Simulation.Journal
import ClusterKv.Simulation.Network
import ClusterKv.Simulation.Run
import ClusterKv.Simulation.Script
import ClusterKv.Simulation.Sending
import ClusterKv.Simulation.Session
import ClusterKv.Simulation.World
import ClusterKv.Store.Basic
import ClusterKv.Store.Item
import ClusterKv.Text.Debug
import ClusterKv.Text.Decimal
import ClusterKv.Text.Printable
import ClusterKv.Text.Utf8
import ClusterKv.Time
import ClusterKv.Topology.Basic
import ClusterKv.Topology.Document
import ClusterKv.Wire.Codec
import ClusterKv.Wire.Decoder
import ClusterKv.Wire.Frame
import ClusterKv.Wire.Outbound
import ClusterKv.Wire.Session
