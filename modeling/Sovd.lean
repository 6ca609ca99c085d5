import Sovd.Lib.Lts
import Sovd.Lib.Lease
import Sovd.Lib.FaultyStream
import Sovd.Lib.Utf8
import Sovd.Lib.Wildcard
import Sovd.Lib.EscapeCode
import Sovd.Lib.Separated
import Sovd.Lib.Segments
import Sovd.Lib.WriteBack
import Sovd.Lib.Base64
import Sovd.Lib.Fallible
import Sovd.Bytes
import Sovd.HexText
import Sovd.Double
import Sovd.Core.LockManager
import Sovd.Core.LockSafety
import Sovd.Core.HeldLocks
import Sovd.Uds.DoipProtocol
import Sovd.Uds.DoipTransport
import Sovd.Uds.UdsServices
import Sovd.Uds.Exchange
import Sovd.Uds.Pairing
import Sovd.Uds.Recovery
import Sovd.Catalog.DidCatalog
import Sovd.Catalog.Codec
import Sovd.Catalog.Loader
import Sovd.Catalog.Throws
import Sovd.Server.Json
import Sovd.Core.Adapter
import Sovd.Uds.SessionManager
import Sovd.Uds.Line
import Sovd.Uds.SessionThreads
import Sovd.Uds.UdsAdapter
import Sovd.Server.Http
import Sovd.Server.Oauth2
import Sovd.Server.World
import Sovd.Server.Handlers
import Sovd.Server.LockHandlers
import Sovd.Server.LockCap
import Sovd.Server.LockTtl
import Sovd.Server.Routes
import Sovd.Server.Scope
import Sovd.Server.WritePolicy
import Sovd.Server.Audit
import Sovd.Server.Telemetry
import Sovd.Server.BatchRead
import Sovd.Server.ConfigLoader
import Sovd.Server.ConfigThrows
import Sovd.Server.ConfigDegrade
import Sovd.Server.LockGate
import Sovd.Server.SessionLife
import Sovd.Server.Fleet
import Sovd.Server.Teardown
import Sovd.Server.Httplib
import Sovd.Server.QueryString
import Sovd.Server.Proxy
import Sovd.Server.StreamTicket
import Sovd.Server.Gateway
import Sovd.Client.SovdClient
import Sovd.Client.LockGuard
import Sovd.Client.OperationStart
import Sovd.Json.FloatText
import Sovd.Json.Dump
import Sovd.Json.Parse
import Sovd.Json.RoundTrip
import Sovd.Server.BearerToken
import Sovd.Client.StreamData
import Sovd.Server.Dispatch
import Sovd.Core.RegistryListing
import Sovd.Uds.SessionRuns
import Sovd.Uds.WriteGate
import Sovd.Lib.Atoms
import Sovd.Uds.CallAtoms
import Sovd.Uds.IdleTimeout
import Sovd.Server.StreamHub
import Sovd.Server.RemoteEntities
import Sovd.Server.StreamIsolation
import Sovd.Catalog.HexGrammar
import Sovd.Lib.ChunkedStream
import Sovd.Lib.FirstStop
import Sovd.Uds.DtcRecords
import Sovd.Uds.PendingLoop
import Sovd.Uds.Segmentation
import Sovd.Lib.Base128
import Sovd.Server.Mqtt
import Sovd.Lib.LinkTree
import Sovd.Server.StaticFiles
import Sovd.Web.UseLock
import Sovd.Json.StringTokens
import Sovd.Server.OperationResult
import Sovd.Client.Stod
import Sovd.Client.TypedWrite
import Sovd.Lib.Unwinding
import Sovd.Server.Pipeline
import Sovd.Server.Ranges
import Sovd.Server.EventFrame
import Sovd.Server.AccessControl
import Sovd.Server.Answers
import Sovd.Server.StreamAccess
import Sovd.Server.AdapterFrame
import Sovd.Mock.MockAdapter
import Sovd.Server.FleetFrame
import Sovd.Mock.MockServer
import Sovd.Server.RequestTrail
import Sovd.Server.TwoTier
import Sovd.Server.LockHold
import Sovd.Client.Loopback
import Sovd.Client.SharedServer
import Sovd.Uds.UdsServer
import Sovd.Client.EcuClient
