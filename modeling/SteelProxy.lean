import SteelProxy.Library.Transition
import SteelProxy.Library.Simulation
import SteelProxy.Library.KeyedMap
import SteelProxy.Library.KeyedRows
import SteelProxy.Library.PerKey
import SteelProxy.Library.Fifo
import SteelProxy.Library.RwLock
import SteelProxy.Library.BroadcastChannel
import SteelProxy.Library.Text
import SteelProxy.Library.LabelSelector
import SteelProxy.Library.VarInt
import SteelProxy.Library.Wire
import SteelProxy.Config
import SteelProxy.Clients
import SteelProxy.Database
import SteelProxy.BuildStore
import SteelProxy.Registry
import SteelProxy.K8s.Instance
import SteelProxy.K8s.Manager
import SteelProxy.K8s.Handlers
import SteelProxy.K8s.HandlerEffects
import SteelProxy.K8s.ClusterEffects
import SteelProxy.K8s.Lifecycle
import SteelProxy.K8s.Coherence
import SteelProxy.K8s.StartExclusion
import SteelProxy.K8s.Recovery
import SteelProxy.K8s.Process
import SteelProxy.K8s.RecoveryCompleteness
import SteelProxy.K8s.Agreement
import SteelProxy.K8s.Provenance
import SteelProxy.K8s.Resources
import SteelProxy.K8s.BuildFollowing
import SteelProxy.K8s.CommitIdentity
import SteelProxy.K8s.TimerEvents
import SteelProxy.K8s.TimerEffects
import SteelProxy.K8s.Timers
import SteelProxy.K8s.Stages
import SteelProxy.K8s.Credentials
import SteelProxy.K8s.Ticks
import SteelProxy.K8s.DueInstances
import SteelProxy.K8s.Restarts
import SteelProxy.K8s.LiveRoutes
import SteelProxy.K8s.Manifests
import SteelProxy.K8s.PlayerReach
import SteelProxy.K8s.Notices
import SteelProxy.K8s.Endings
import SteelProxy.K8s.AtomicStarts
import SteelProxy.K8s.Lifetimes
import SteelProxy.Proxy.Packets
import SteelProxy.Proxy.Forwarder
import SteelProxy.Proxy.ForwarderEffects
import SteelProxy.Proxy.CommandParser
import SteelProxy.Proxy.Advice
import SteelProxy.Proxy.Transparency
import SteelProxy.Proxy.PhaseGuard
import SteelProxy.Proxy.Session
import SteelProxy.Proxy.SessionEffects
import SteelProxy.Proxy.PhaseTracking
import SteelProxy.Proxy.ClientHandler
import SteelProxy.Proxy.Routing
import SteelProxy.Proxy.RegistryViews
import SteelProxy.Proxy.SwitchAtomicity
import SteelProxy.Proxy.SwitchRouting
import SteelProxy.Proxy.BackendConnection
import SteelProxy.Proxy.FrameEncoding
import SteelProxy.Proxy.CompressionAgreement
import SteelProxy.Proxy.LoginSafety
import SteelProxy.Proxy.Tasks
import SteelProxy.Proxy.LockSafety
import SteelProxy.Proxy.LockProgress
import SteelProxy.Proxy.TaskRefinement
import SteelProxy.Proxy.RoutedTasks
import SteelProxy.Proxy.ShownAnnouncements
