import Fdbus.Library.LittleEndian
import Fdbus.Library.Run
import Fdbus.Library.Framing
import Fdbus.Library.OrderedMap
import Fdbus.Library.BatchQueue
import Fdbus.Common.Defs
import Fdbus.Worker.OutputChunk
import Fdbus.Worker.InputChunk
import Fdbus.Wire.SimpleSerializer
import Fdbus.Wire.MessageHeader
import Fdbus.Session.ProcessPayload
import Fdbus.Session.Reassembly
import Fdbus.Session.SyncWriter
import Fdbus.Session.Routing
import Fdbus.Subscribe.Handle
import Fdbus.Security.ApiSecurity
import Fdbus.Security.ApiConfig
import Fdbus.Security.Token
import Fdbus.Subscribe.Refinement
import Fdbus.Subscribe.Request
import Fdbus.Subscribe.Broadcast
import Fdbus.Subscribe.ToSession
import Fdbus.Message.Frame
import Fdbus.Session.Pending
import Fdbus.Subscribe.EventCache
import Fdbus.Subscribe.Publish
import Fdbus.Endpoint.SessionCount
import Fdbus.Endpoint.Completion
import Fdbus.Message.Response
import Fdbus.Worker.EventLoop
import Fdbus.Worker.JobQueue
import Fdbus.Worker.Exit
import Fdbus.Worker.Flush
import Fdbus.Worker.Discard
import Fdbus.Worker.SyncRequest
import Fdbus.Server.AddressList
import Fdbus.Server.Registry
import Fdbus.Server.Notify
import Fdbus.Server.Publishers
import Fdbus.Server.ExternalService
import Fdbus.Server.NameServer
import Fdbus.Server.Monitors
import Fdbus.Server.Binding
import Fdbus.Server.Announce
import Fdbus.Server.View
import Fdbus.Server.ExternalChanges
import Fdbus.Server.Listeners
import Fdbus.Server.Allocators
import Fdbus.Server.Allocation
import Fdbus.Server.Offline
import Fdbus.Host.ExportTables
import Fdbus.Host.HostServer
import Fdbus.Host.Synchronised
import Fdbus.Host.Duplicates
import Fdbus.Host.HostOnline
import Fdbus.Server.Query
import Fdbus.Client.Connect
import Fdbus.DataPool.Topics
import Fdbus.DataPool.Server
import Fdbus.Library.MultiMap
import Fdbus.DataPool.Pool
import Fdbus.DataPool.Conservation
import Fdbus.DataPool.Attachment
import Fdbus.DataPool.Availability
import Fdbus.Client.Answers
import Fdbus.DataPool.ClientTable
import Fdbus.Session.UdpSession
import Fdbus.Endpoint.Registration
import Fdbus.Subscribe.SubscribedSessions
import Fdbus.Subscribe.CacheUpdate
import Fdbus.Client.SessionClasses
import Fdbus.Library.Codec
import Fdbus.Wire.GrowingBuffer
import Fdbus.Wire.Parcelable
import Fdbus.Wire.AddressMessages
import Fdbus.Wire.ProtocolMessages
import Fdbus.Wire.Unambiguous
import Fdbus.Wire.JavaSerializer
import Fdbus.Library.Program
import Fdbus.Wire.ReadBounds
import Fdbus.Library.StableQueue
import Fdbus.Worker.TimerQueue
import Fdbus.Subscribe.Delivery
import Fdbus.Subscribe.Dispatcher
import Fdbus.Session.Transfer
import Fdbus.Session.Connection
import Fdbus.Session.DatagramBytes
import Fdbus.Worker.RefusedSend
import Fdbus.Library.Orbit
import Fdbus.Server.FreePorts
import Fdbus.Server.InstanceIds
import Fdbus.Log.TraceFilter
import Fdbus.Host.SvcAddrUtils
import Fdbus.Host.Supervision
