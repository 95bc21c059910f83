import PacketTunnel.Backoff
import PacketTunnel.Base64
import PacketTunnel.Bridge.Actor
import PacketTunnel.Bridge.Engine
import PacketTunnel.Bridge.Error
import PacketTunnel.Bridge.Loop
import PacketTunnel.Bridge.Timer
import PacketTunnel.Config
import PacketTunnel.Config.Fields
import PacketTunnel.Config.Json
import PacketTunnel.Config.Toml
import PacketTunnel.Decimal.Double
import PacketTunnel.Decimal.Rounding
import PacketTunnel.Decimal.Shortest
import PacketTunnel.Ipc.Client
import PacketTunnel.Ipc.Codec
import PacketTunnel.Ipc.Command
import PacketTunnel.Ipc.Error
import PacketTunnel.Ipc.SerialQueue
import PacketTunnel.Ipc.Server
import PacketTunnel.Ipc.System
import PacketTunnel.Ipc.Window
import PacketTunnel.Json.Fault
import PacketTunnel.Json.Reader
import PacketTunnel.Json.Scanner
import PacketTunnel.Json.Variant
import PacketTunnel.Json.Writer
import PacketTunnel.Key
import PacketTunnel.Key.Curve
import PacketTunnel.Key.Json
import PacketTunnel.Key.Shape
import PacketTunnel.Log.Expression
import PacketTunnel.Log.Expression.CharClass
import PacketTunnel.Log.Expression.Mode
import PacketTunnel.Log.Expression.Opening
import PacketTunnel.Log.Expression.Primitive
import PacketTunnel.Log.Expression.Row
import PacketTunnel.Log.Filter
import PacketTunnel.Log.Pattern
import PacketTunnel.Lookup
import PacketTunnel.Main
import PacketTunnel.Net.Address
import PacketTunnel.Net.Endpoint
import PacketTunnel.Packet
import PacketTunnel.Proofs.AddressOctets
import PacketTunnel.Proofs.AddressText
import PacketTunnel.Proofs.Apart
import PacketTunnel.Proofs.BackoffGrowth
import PacketTunnel.Proofs.Base64Form
import PacketTunnel.Proofs.BridgeMove
import PacketTunnel.Proofs.BridgeRestart
import PacketTunnel.Proofs.BridgeRun
import PacketTunnel.Proofs.BridgeSessions
import PacketTunnel.Proofs.BridgeWorld
import PacketTunnel.Proofs.ClientDeed
import PacketTunnel.Proofs.ClientSession
import PacketTunnel.Proofs.ClientTurn
import PacketTunnel.Proofs.CommandCodec
import PacketTunnel.Proofs.ConfigJson
import PacketTunnel.Proofs.ConfigToml
import PacketTunnel.Proofs.DataPath
import PacketTunnel.Proofs.DirectStep
import PacketTunnel.Proofs.DirectSystem
import PacketTunnel.Proofs.EndpointRouting
import PacketTunnel.Proofs.EndpointText
import PacketTunnel.Proofs.EngineCensus
import PacketTunnel.Proofs.EngineConversation
import PacketTunnel.Proofs.EngineDialogue
import PacketTunnel.Proofs.EngineLife
import PacketTunnel.Proofs.EngineMail
import PacketTunnel.Proofs.EpochIsolation
import PacketTunnel.Proofs.Exchange
import PacketTunnel.Proofs.HandleLedger
import PacketTunnel.Proofs.HeaderBytes
import PacketTunnel.Proofs.HostReads
import PacketTunnel.Proofs.IpcCodec
import PacketTunnel.Proofs.JsonRefusal
import PacketTunnel.Proofs.JsonString
import PacketTunnel.Proofs.JsonValue
import PacketTunnel.Proofs.KeyReading
import PacketTunnel.Proofs.KeyText
import PacketTunnel.Proofs.LatestStart
import PacketTunnel.Proofs.NetmaskTrim
import PacketTunnel.Proofs.NumeralText
import PacketTunnel.Proofs.PushCapacity
import PacketTunnel.Proofs.PushDelivery
import PacketTunnel.Proofs.QueryCodec
import PacketTunnel.Proofs.QueryNumbers
import PacketTunnel.Proofs.QueueOrder
import PacketTunnel.Proofs.QueueRun
import PacketTunnel.Proofs.ReadLoop
import PacketTunnel.Proofs.ReadReports
import PacketTunnel.Proofs.ReconnectBudget
import PacketTunnel.Proofs.ReconnectEnd
import PacketTunnel.Proofs.ReconnectPoll
import PacketTunnel.Proofs.ReconnectRange
import PacketTunnel.Proofs.ReconnectSchedule
import PacketTunnel.Proofs.RecordPrefix
import PacketTunnel.Proofs.RefillOutcome
import PacketTunnel.Proofs.ReplyBounds
import PacketTunnel.Proofs.ReplyExtent
import PacketTunnel.Proofs.ReplyLayout
import PacketTunnel.Proofs.ReplyPrefix
import PacketTunnel.Proofs.ReplyReading
import PacketTunnel.Proofs.SessionIndex
import PacketTunnel.Proofs.SessionInterface
import PacketTunnel.Proofs.SessionNumbers
import PacketTunnel.Proofs.SessionRun
import PacketTunnel.Proofs.Settling
import PacketTunnel.Proofs.SocketReads
import PacketTunnel.Proofs.SocketRun
import PacketTunnel.Proofs.SocketWrites
import PacketTunnel.Proofs.SoloSystem
import PacketTunnel.Proofs.SpanWords
import PacketTunnel.Proofs.StaleAnswer
import PacketTunnel.Proofs.StaleEvents
import PacketTunnel.Proofs.SystemLog
import PacketTunnel.Proofs.TaskOrder
import PacketTunnel.Proofs.TomlDocument
import PacketTunnel.Proofs.TomlText
import PacketTunnel.Proofs.TrafficCount
import PacketTunnel.Proofs.TrafficLedger
import PacketTunnel.Proofs.UuidNumber
import PacketTunnel.Proofs.UuidText
import PacketTunnel.Proofs.WindowAccounts
import PacketTunnel.Proofs.WindowBound
import PacketTunnel.Proofs.WindowCapacity
import PacketTunnel.Proofs.WindowCourse
import PacketTunnel.Proofs.WindowLedger
import PacketTunnel.Proofs.WindowRest
import PacketTunnel.Proofs.WindowSupply
import PacketTunnel.Proofs.WindowWork
import PacketTunnel.Reconnect
import PacketTunnel.Route.Error
import PacketTunnel.Route.Header
import PacketTunnel.Route.Query
import PacketTunnel.Route.Reply
import PacketTunnel.Route.Resolution
import PacketTunnel.Route.Resolver
import PacketTunnel.Scripted.Desk
import PacketTunnel.Scripted.Engine
import PacketTunnel.Scripted.Host
import PacketTunnel.Scripted.Network
import PacketTunnel.Scripted.Pair
import PacketTunnel.Scripted.Sessions
import PacketTunnel.Scripted.Sockets
import PacketTunnel.Scripted.Tunnel
import PacketTunnel.Scripted.Worker
import PacketTunnel.Session.Event
import PacketTunnel.Session.Receipt
import PacketTunnel.Session.Socket
import PacketTunnel.Session.Table
import PacketTunnel.Shape
import PacketTunnel.Span
import PacketTunnel.SystemError
import PacketTunnel.Text.Alphanumeric
import PacketTunnel.Text.Blank
import PacketTunnel.Text.Hex
import PacketTunnel.Text.Numeral
import PacketTunnel.Text.Printable
import PacketTunnel.Text.Quoted
import PacketTunnel.Text.Utf8
import PacketTunnel.Toml.Datetime
import PacketTunnel.Toml.Document
import PacketTunnel.Toml.Lexis
import PacketTunnel.Toml.Name
import PacketTunnel.Toml.Node
import PacketTunnel.Toml.Number
import PacketTunnel.Toml.Quoted
import PacketTunnel.Toml.Style
import PacketTunnel.Toml.Value
import PacketTunnel.Traffic
import PacketTunnel.Uuid
