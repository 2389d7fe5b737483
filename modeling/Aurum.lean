import Aurum.Wire.LittleEndian
import Aurum.Wire.Slice
import Aurum.Wire.Crc
import Aurum.Wire.Burst
import Aurum.Protocol.Core
import Aurum.Protocol.FrameBuilder
import Aurum.Protocol.Kernel
import Aurum.Protocol.Dispatch
import Aurum.Protocol.Grammar
import Aurum.Protocol.RoundTrip
import Aurum.Protocol.Stream
import Aurum.Protocol.Checksum
import Aurum.Protocol.Flips
import Aurum.Protocol.Points
import Aurum.Container.Filed
import Aurum.Container.Ledger
import Aurum.Container.Cycle
import Aurum.Container.Latest
import Aurum.Transition.Machine
import Aurum.Transition.Path
import Aurum.Transition.Locked
import Aurum.Protocol.Accounting
import Aurum.Node.Session
import Aurum.Node.State
import Aurum.Node.Handlers
import Aurum.Node.Discovery
import Aurum.Node.Effects
import Aurum.Node.Closure
import Aurum.Node.Totality
import Aurum.Node.Runs
import Aurum.Node.Frames
import Aurum.Node.DiscoveryCodec
import Aurum.Node.Dialing
import Aurum.Node.WebsocketFrames
import Aurum.Node.Descriptions
import Aurum.Node.Rediscovery
import Aurum.Node.Leaving
import Aurum.Node.Indexes
import Aurum.Node.Placeholders
import Aurum.Node.Closing
import Aurum.Node.RoundRobin
import Aurum.Node.Descent
import Aurum.Node.Sections
import Aurum.Node.Teardown
import Aurum.Node.Writing
import Aurum.Node.Replies
import Aurum.Node.ReplyFrames
import Aurum.Node.Batching
import Aurum.Node.Identify
import Aurum.Node.Broadcast
import Aurum.Node.Bounds
import Aurum.Replication.Channels
import Aurum.Cluster.Frames
import Aurum.Cluster.Membership
import Aurum.Node.Requests
import Aurum.Node.Announcements
import Aurum.Node.Orphans
import Aurum.Node.Advertising
import Aurum.Cluster.Model
import Aurum.Cluster.Steps
import Aurum.Cluster.Links
import Aurum.Cluster.Clients
import Aurum.Cluster.Invariant
import Aurum.Cluster.Convergence
import Aurum.Transition.Termination
import Aurum.Node.Outgoing
import Aurum.Cluster.Network
import Aurum.Cluster.Cascades
import Aurum.Cluster.Peers
import Aurum.Cluster.Handshakes
import Aurum.Cluster.Exchange
import Aurum.Cluster.Linking
import Aurum.Cluster.ConnectionsPerNode
import Aurum.Transition.Fifo
import Aurum.Node.Transport
import Aurum.Transition.Program
import Aurum.Transition.LockOrder
import Aurum.Node.Locking
import Aurum.Node.Alone
import Aurum.Node.Concurrency
import Aurum.Node.Conversation
import Aurum.Node.Correlation
import Aurum.Node.Draws
import Aurum.Node.Speech
import Aurum.Node.Honesty
import Aurum.Node.Naming
import Aurum.Cluster.Mesh
import Aurum.Cluster.Authenticity
import Aurum.Cluster.Permanence
import Aurum.Cluster.Wires
import Aurum.Cluster.Correlation
