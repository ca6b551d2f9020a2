import Yuha.Library.Framing
import Yuha.Library.Execution
import Yuha.Core.MessageChannel
import Yuha.Core.Delivery
import Yuha.Core.Splicing
import Yuha.Client.ClientTransport
import Yuha.Client.RequestPairing
import Yuha.Core.Transport
import Yuha.Core.Session.Metadata
import Yuha.Core.Session.Registry
import Yuha.Core.Session.Pool
import Yuha.Core.Session.Lifecycle
import Yuha.Core.Session.Metrics
import Yuha.Core.Session.Manager
import Yuha.Core.Session.Coherence
import Yuha.Daemon.Handler
import Yuha.Daemon.SessionTable
import Yuha.Daemon.Simulation
import Yuha.Daemon.Backing
import Yuha.Daemon.Anchoring
import Yuha.Daemon.Endpoints
import Yuha.Daemon.Sharing
import Yuha.Daemon.Stored
import Yuha.Daemon.Server
import Yuha.Daemon.Answering
import Yuha.Daemon.Admission
import Yuha.Library.ExactIndex
import Yuha.Core.Session.Indexing
import Yuha.Core.Session.Naming
import Yuha.Core.Session.Pooling
import Yuha.Core.Session.Operations
import Yuha.Core.Session.Mirroring
import Yuha.Library.Program
import Yuha.Core.Session.ManagerCalls
import Yuha.Core.Session.Census
import Yuha.Core.Session.Creations
import Yuha.Core.Session.Racing
import Yuha.Core.Session.Expiring
import Yuha.Library.Interleaving
import Yuha.Library.LaggingIndex
import Yuha.Core.Session.RegistryCalls
import Yuha.Core.Session.Limiting
import Yuha.Core.Session.Lagging
import Yuha.Library.RwLock
import Yuha.Core.Session.RegistryLocks
import Yuha.Core.ResponseBuffer
import Yuha.Library.OrderedMerge
import Yuha.Remote.Relay
import Yuha.Remote.HalfClose
import Yuha.Core.ResponseEncoding
import Yuha.Remote.Server
import Yuha.Remote.Changes
import Yuha.Remote.Relaying
import Yuha.Remote.Stopping
import Yuha.Remote.Announcing
import Yuha.Remote.Reopening
import Yuha.Remote.Forwarding
import Yuha.Remote.Replying
import Yuha.Client.Polling
import Yuha.Core.Session.Reusing
import Yuha.Daemon.Reuse
import Yuha.Remote.Ipc
import Yuha.Core.Session.Registering
import Yuha.Core.Session.Cleaning
import Yuha.Core.Session.Connecting
import Yuha.Daemon.ShuttingDown
import Yuha.Library.Periodic
import Yuha.Core.BackgroundTasks
import Yuha.Client.SshChannel
import Yuha.Library.Base64
import Yuha.Client.SshTransfer
import Yuha.Library.JsonValue
import Yuha.Core.JsonMessages
import Yuha.Core.MessageDelivery
import Yuha.Client.Clipboard
import Yuha.Daemon.Listing
import Yuha.Core.Session.PoolLimits
import Yuha.Core.ConnectionKeys
import Yuha.Core.Session.Peak
import Yuha.Core.CircuitBreaker
import Yuha.Core.Retry
import Yuha.Client.PollingEnd
import Yuha.Library.Lines
import Yuha.Library.Utf8
import Yuha.Remote.IpcLines
import Yuha.Core.Replaying
import Yuha.Remote.LongPolling
import Yuha.Remote.ConnectionIds
import Yuha.Core.PerformanceMetrics
import Yuha.Core.Session.Reconnecting
import Yuha.Client.TransportFactory
import Yuha.Client.EndOfStream
import Yuha.Library.Shell.Content
import Yuha.Library.Shell.Ordinary
import Yuha.Client.SshCommand
import Yuha.Client.CommandSize
import Yuha.Library.Window
import Yuha.Core.MessageBuffer
import Yuha.Core.MetricSamples
import Yuha.Library.LockOrder
import Yuha.Daemon.HandlerCalls
import Yuha.Daemon.Tasks
import Yuha.Library.Monitor
import Yuha.Daemon.TaskNotes
import Yuha.Daemon.Accounts
import Yuha.Daemon.Identities
import Yuha.Core.Session.ManagerLocks
import Yuha.Daemon.Locking
import Yuha.Core.Session.Overshooting
import Yuha.Remote.Locking
import Yuha.Core.Session.Histories
import Yuha.Remote.Tunnelling
import Yuha.Client.AtomicCalls
import Yuha.Client.Transparency
import Yuha.Library.Descent
import Yuha.Client.Returning
import Yuha.Client.DaemonClient
import Yuha.Daemon.Clients
import Yuha.Daemon.Fitting
import Yuha.Daemon.Telling
import Yuha.Daemon.Overlapping
import Yuha.Daemon.Stages
import Yuha.Core.TransportBuilders
import Yuha.Core.Session.Creations
import Yuha.Daemon.Fitting
import Yuha.Daemon.Telling
