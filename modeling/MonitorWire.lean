import MonitorWire.Bytes.Basic
import MonitorWire.Bytes.Utf8
import MonitorWire.Error
import MonitorWire.Trace
import MonitorWire.Zlib.Inflate
import MonitorWire.Zlib.Stored
import MonitorWire.Decimal.Binary64
import MonitorWire.Decimal.Shortest
import MonitorWire.Decimal.Layout
import MonitorWire.Json.Value
import MonitorWire.Json.Writer
import MonitorWire.Json.Cursor
import MonitorWire.Json.Reader
import MonitorWire.Outcome
import MonitorWire.Redact.Mask
import MonitorWire.Packet.Header
import MonitorWire.Packet.Frame
import MonitorWire.Packet.Buffer
import MonitorWire.Packet.Source
import MonitorWire.Text.Basic
import MonitorWire.Text.Debug
import MonitorWire.Cluster
import MonitorWire.Item
import MonitorWire.Duration
import MonitorWire.Reply
import MonitorWire.Decimal.Text
import MonitorWire.Regex.CharSet
import MonitorWire.Regex.Syntax
import MonitorWire.Regex.Ast
import MonitorWire.Regex.Parse
import MonitorWire.Regex.Property
import MonitorWire.Regex.Elaborate
import MonitorWire.Regex.Footprint
import MonitorWire.Regex.Machine
import MonitorWire.Redact.Rule
import MonitorWire.Api.Version
import MonitorWire.Api.Envelope
import MonitorWire.Api.Session
import MonitorWire.Api.Client
import MonitorWire.Url.Punycode
import MonitorWire.Url.Idna
import MonitorWire.Url
import MonitorWire.Config.Settings
import MonitorWire.Config.Decode
import MonitorWire.Config.LogFilter
import MonitorWire.Config.Load
import MonitorWire.Toml.Value
import MonitorWire.Toml.Parse
import MonitorWire.Bytes.Base64
import MonitorWire.Net.Link
import MonitorWire.Net.Resolve
import MonitorWire.Net.Isolated
import MonitorWire.Service.Sender
import MonitorWire.Service.Getter
import MonitorWire.Unicode.Table
import MonitorWire.Unicode.Category
import MonitorWire.Unicode.Property
import MonitorWire.Unicode.Additions
import MonitorWire.Unicode.Script
import MonitorWire.Unicode.Age
import MonitorWire.Unicode.Segment
import MonitorWire.Unicode.Fold
import MonitorWire.Unicode.Classify
import MonitorWire.Unicode.Idna
import MonitorWire.Unicode.Bidi
import MonitorWire.Unicode.Joining
import MonitorWire.Unicode.Compose
import MonitorWire.Unicode.Normalize
import MonitorWire.Proofs.StoredStream
import MonitorWire.Proofs.FrameRoundTrip
import MonitorWire.Proofs.ChunkedReading
import MonitorWire.Proofs.ReplyReading
import MonitorWire.Proofs.SessionInvariants
import MonitorWire.Proofs.TokenPlacement
import MonitorWire.Proofs.ClientRuns
import MonitorWire.Proofs.SharedSession
import MonitorWire.Proofs.NetworkRuns
import MonitorWire.Proofs.HeaderParsing
import MonitorWire.Proofs.BufferConsumption
import MonitorWire.Proofs.ReplySums
import MonitorWire.Proofs.SecretMasking
import MonitorWire.Proofs.SenderDelivery
import MonitorWire.Proofs.MachinePaths
import MonitorWire.Proofs.FieldValues
import MonitorWire.Proofs.FieldSearch
import MonitorWire.Proofs.Redaction
import MonitorWire.Proofs.SuccessiveReads
import MonitorWire.Proofs.TextForms
import MonitorWire.Proofs.EndpointAddress
import MonitorWire.Proofs.ClusterSyntax
import MonitorWire.Proofs.VersionScan
import MonitorWire.Proofs.VersionMachine
import MonitorWire.Proofs.VersionRoundTrip
import MonitorWire.Proofs.TimeoutRange
