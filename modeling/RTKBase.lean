import RTKBase.Lib.Scan
import RTKBase.Lib.Replay
import RTKBase.Lib.ReplayExact
import RTKBase.Lib.ReplayPositions
import RTKBase.Lib.Lts
import RTKBase.Lib.Custody
import RTKBase.Lib.Delivery
import RTKBase.Lib.CString
import RTKBase.Lib.Base64
import RTKBase.Lib.HttpHead
import RTKBase.Lib.Numeral
import RTKBase.Lib.Batch
import RTKBase.Lib.Session
import RTKBase.Lib.Ledger
import RTKBase.Lib.Ring
import RTKBase.Lib.Search
import RTKBase.Lib.Counter
import RTKBase.Lib.Pieces
import RTKBase.Lib.Placement
import RTKBase.Lib.BitPolynomial
import RTKBase.Lib.Remainder
import RTKBase.Log.Store
import RTKBase.Log.Visible
import RTKBase.Log.Bounds
import RTKBase.Log.Entries
import RTKBase.Log.Snapshot
import RTKBase.GnssUart.Crc
import RTKBase.GnssUart.Splitter
import RTKBase.GnssUart.Reference
import RTKBase.GnssUart.SplitterSpec
import RTKBase.GnssUart.SplitterRun
import RTKBase.GnssUart.Framing
import RTKBase.GnssUart.Reader
import RTKBase.GnssUart.Bounds
import RTKBase.GnssUart.Chunking
import RTKBase.GnssUart.CrcRemainder
import RTKBase.GnssUart.BurstErrors
import RTKBase.GnssUart.Termination
import RTKBase.GnssUart.Console
import RTKBase.GnssUart.ConsoleRun
import RTKBase.GnssUart.ConsoleLines
import RTKBase.GnssUart.ConsoleNoise
import RTKBase.GnssUart.ConsoleRuns
import RTKBase.FramePool.Pool
import RTKBase.FramePool.Pipeline
import RTKBase.FramePool.Steps
import RTKBase.FramePool.RefCount
import RTKBase.FramePool.RefCountRun
import RTKBase.FramePool.Startup
import RTKBase.FramePool.Delivery
import RTKBase.FramePool.Room
import RTKBase.NvsConfig.Store
import RTKBase.NvsConfig.Items
import RTKBase.NvsConfig.Json
import RTKBase.NvsConfig.Update
import RTKBase.NvsConfig.Given
import RTKBase.NvsConfig.Typed
import RTKBase.NvsConfig.Defaults
import RTKBase.NvsConfig.Export
import RTKBase.NvsConfig.RoundTrip
import RTKBase.NtripCaster.Config
import RTKBase.NtripCaster.Request
import RTKBase.NtripCaster.RequestWords
import RTKBase.NtripCaster.Sourcetable
import RTKBase.NtripCaster.Send
import RTKBase.NtripCaster.Server
import RTKBase.NtripCaster.Slots
import RTKBase.NtripCaster.ServerRun
import RTKBase.NtripCaster.FrameAlignment
import RTKBase.NtripCaster.AcceptResponse
import RTKBase.NtripCaster.Login
import RTKBase.NtripCaster.Handshake
import RTKBase.NtripCaster.RequestHead
import RTKBase.NtripCaster.Segmentation
import RTKBase.NtripCaster.Calls
import RTKBase.NtripCaster.Descriptors
import RTKBase.NtripCaster.Access
import RTKBase.NtripClient.Connect
import RTKBase.NtripClient.Credentials
import RTKBase.NtripClient.Response
import RTKBase.NtripClient.Uplink
import RTKBase.NtripClient.UplinkRun
import RTKBase.NtripClient.Sockets
import RTKBase.WebServer.BasicAuth
import RTKBase.NvsConfig.OwnedString
import RTKBase.WebServer.ConfigPost
import RTKBase.WebServer.HotspotAuth
import RTKBase.WebServer.StaticPath
import RTKBase.WebServer.StaticFile
import RTKBase.WebServer.NotModified
import RTKBase.WebServer.Upload
import RTKBase.WebServer.UploadExact
import RTKBase.WebServer.OtaSlots
import RTKBase.WebServer.OtaSession
import RTKBase.WebServer.JsonText
import RTKBase.WebServer.ConfigPage
import RTKBase.WebServer.StatusPage
import RTKBase.WebServer.StatusSize
import RTKBase.Wifi.Station
import RTKBase.Wifi.Reconnect
import RTKBase.Wifi.Retry
import RTKBase.Boot
import RTKBase.Settings
import RTKBase.Startup.Routines
import RTKBase.Wifi.ApStatus
import RTKBase.Startup.Bootable
import RTKBase.Startup.SafePosts
import RTKBase.WebServer.Pages
import RTKBase.TcpServer.Server
import RTKBase.TcpServer.Steps
import RTKBase.TcpServer.Sockets
import RTKBase.TcpServer.Chunks
import RTKBase.TcpServer.Endpoint
import RTKBase.TcpServer.Disconnect
import RTKBase.WebServer.TextBuffers
import RTKBase.WebServer.GnssCommand
import RTKBase.WebServer.CommandSteps
import RTKBase.WebServer.CommandOrder
import RTKBase.Lib.ReplayOrder
import RTKBase.Lib.Simulation
import RTKBase.Lib.WaitFree
import RTKBase.FramePool.WaitFree
import RTKBase.GnssUart.EventLoop
import RTKBase.GnssUart.EventLoopRun
import RTKBase.GnssUart.EventLoopFrames
import RTKBase.Firmware.System
import RTKBase.Firmware.Steps
import RTKBase.Firmware.Coupling
import RTKBase.Firmware.Refinement
import RTKBase.Firmware.EndToEnd
import RTKBase.Firmware.Streams
import RTKBase.Firmware.Progress
import RTKBase.NtripCaster.SendBound
import RTKBase.NtripClient.SendBound
import RTKBase.Firmware.Release
import RTKBase.NtripCaster.RoverLog
import RTKBase.NtripCaster.RoverIsolation
import RTKBase.NtripCaster.RoverAccounting
import RTKBase.Device.Outsiders
import RTKBase.NvsConfig.History
import RTKBase.TcpServer.WaitFree
import RTKBase.Lib.FewErrors
import RTKBase.GnssUart.FewFlips
import RTKBase.Lib.Segments
import RTKBase.GnssUart.Multiplex
