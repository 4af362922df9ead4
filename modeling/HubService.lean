import HubService.Config.Basic
import HubService.Config.Cli
import HubService.Config.EnvText
import HubService.Config.File
import HubService.Config.Load
import HubService.Config.LogFormat
import HubService.Decimal.Double
import HubService.Decimal.Shortest
import HubService.Dispatch.Classify
import HubService.Dispatch.Error
import HubService.Duration
import HubService.Json.Decode
import HubService.Json.Error
import HubService.Json.Parse
import HubService.Json.Print
import HubService.Json.Value
import HubService.Main
import HubService.Registry.Basic
import HubService.Registry.Descriptor
import HubService.Service.Bootstrap
import HubService.Service.Connection
import HubService.Service.Health
import HubService.Session.Basic
import HubService.Session.Handler
import HubService.Session.Outbound
import HubService.Session.Pending
import HubService.Session.Program
import HubService.Session.Runtime
import HubService.Session.Serve
import HubService.Telemetry.Basic
import HubService.Telemetry.Filter
import HubService.Telemetry.Pattern
import HubService.Text.CharClass
import HubService.Text.Debug
import HubService.Text.Unicode
import HubService.User
import HubService.Uuid
import HubService.Wire.EndpointPath
import HubService.Wire.Envelope
import HubService.Wire.ErrorCode
import HubService.Wire.Frame
import HubService.Wire.Framing
import HubService.Wire.Tag
import HubService.Proofs.Framing.Scan
import HubService.Proofs.Framing.Resume
import HubService.Proofs.Framing.Cut
import HubService.Proofs.Json.Balanced
import HubService.Proofs.Framing.RoundTrip
import HubService.Proofs.Framing.Segmentation
import HubService.Proofs.Framing.Shape
import HubService.Proofs.Framing.Layout
import HubService.Proofs.Dispatch.Rules
import HubService.Proofs.Json.Tokens
import HubService.Proofs.Json.Reread
import HubService.Proofs.Uuid
import HubService.Proofs.Json.Nesting
import HubService.Proofs.Wire.FrameEnvelope
import HubService.Proofs.Registry.Tables
import HubService.Proofs.Session.Dispatch
import HubService.Proofs.Session.Runs
import HubService.Proofs.Session.Replies
import HubService.Proofs.Session.Calls
import HubService.Proofs.Session.Delivery
import HubService.Proofs.Framing.Limit
import HubService.Proofs.Session.Exchange
import HubService.Proofs.Session.Slots
import HubService.Service.Reader
import HubService.Proofs.Service.Admission
import HubService.Service.Link
import HubService.Proofs.Service.WriteOrder
import HubService.Proofs.Registry.Calls
import HubService.Proofs.Registry.Validation
import HubService.Proofs.Service.Refusal
import HubService.Proofs.Service.Startup
import HubService.Proofs.Dispatch.Unsupported
import HubService.Proofs.User
