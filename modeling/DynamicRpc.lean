import DynamicRpc.Base64
import DynamicRpc.CommandLine.Arguments
import DynamicRpc.CommandLine.Command
import DynamicRpc.CommandLine.Usage
import DynamicRpc.Crypto.Edwards
import DynamicRpc.Crypto.Modular
import DynamicRpc.Crypto.PrimeCurve
import DynamicRpc.Crypto.Rsa
import DynamicRpc.Crypto.Sha2
import DynamicRpc.Date
import DynamicRpc.Files
import DynamicRpc.Http.Header
import DynamicRpc.Http.Uri
import DynamicRpc.Json.Printer
import DynamicRpc.Json.Reader
import DynamicRpc.Json.Record
import DynamicRpc.Json.Tree
import DynamicRpc.Json.Value
import DynamicRpc.Main
import DynamicRpc.Message.FromJson
import DynamicRpc.Message.Struct
import DynamicRpc.Message.Time
import DynamicRpc.Message.ToJson
import DynamicRpc.Message.Value
import DynamicRpc.Message.WellKnown
import DynamicRpc.Message.Wire
import DynamicRpc.Net.SocketAddress
import DynamicRpc.Number.Binary
import DynamicRpc.Number.Decimal
import DynamicRpc.Number.Shortest
import DynamicRpc.Proofs.Http.HeaderMap
import DynamicRpc.Proofs.Reflection.Answers
import DynamicRpc.Proofs.Reflection.AskedOnce
import DynamicRpc.Proofs.Reflection.CachedNames
import DynamicRpc.Proofs.Reflection.Catalog
import DynamicRpc.Proofs.Reflection.CatalogLookup
import DynamicRpc.Proofs.Reflection.Endings
import DynamicRpc.Proofs.Reflection.Exchange
import DynamicRpc.Proofs.Reflection.Insertion
import DynamicRpc.Proofs.Reflection.LastWait
import DynamicRpc.Proofs.Reflection.Negotiation
import DynamicRpc.Proofs.Reflection.Operations
import DynamicRpc.Proofs.Reflection.Replying
import DynamicRpc.Proofs.Reflection.Shelves
import DynamicRpc.Proofs.Reflection.SoundCache
import DynamicRpc.Proofs.Reflection.StableNames
import DynamicRpc.Proofs.Reflection.Streams
import DynamicRpc.Proofs.Reflection.Sweep
import DynamicRpc.Proofs.Relay.Checks
import DynamicRpc.Proofs.Relay.CrowdedForwarding
import DynamicRpc.Proofs.Relay.Outbound
import DynamicRpc.Proofs.Relay.TrustBoundary
import DynamicRpc.Proofs.Schema.Definitions
import DynamicRpc.Proofs.Schema.Imports
import DynamicRpc.Proofs.Schema.Linking
import DynamicRpc.Proofs.Schema.Names
import DynamicRpc.Proofs.Schema.Parts
import DynamicRpc.Proofs.Schema.PlainNames
import DynamicRpc.Proofs.Schema.Resolution
import DynamicRpc.Proofs.Success
import DynamicRpc.Reflection.Cache
import DynamicRpc.Reflection.Connector
import DynamicRpc.Reflection.Dialect
import DynamicRpc.Reflection.Query
import DynamicRpc.Reflection.Resolver
import DynamicRpc.Reflection.Transport
import DynamicRpc.Relay.Config
import DynamicRpc.Relay.Envelope
import DynamicRpc.Relay.Handler
import DynamicRpc.Relay.Policy
import DynamicRpc.Relay.Setup
import DynamicRpc.Report
import DynamicRpc.Rpc.Client
import DynamicRpc.Rpc.Connection
import DynamicRpc.Rpc.Options
import DynamicRpc.Rpc.RequestHeaders
import DynamicRpc.Rpc.Response
import DynamicRpc.Rpc.Status
import DynamicRpc.Schema.Declaration
import DynamicRpc.Schema.Decode
import DynamicRpc.Schema.Default
import DynamicRpc.Schema.Descriptor
import DynamicRpc.Schema.Link
import DynamicRpc.Schema.Pool
import DynamicRpc.Schema.Render
import DynamicRpc.Schema.Symbol
import DynamicRpc.Text.Ascii
import DynamicRpc.Text.Printable
import DynamicRpc.Text.Quoted
import DynamicRpc.Text.Style
import DynamicRpc.Text.Utf8
import DynamicRpc.Tls.Certificate
import DynamicRpc.Tls.Chain
import DynamicRpc.Tls.Der
import DynamicRpc.Tls.Fault
import DynamicRpc.Tls.Options
import DynamicRpc.Tls.Pem
import DynamicRpc.Tls.PrivateKey
import DynamicRpc.Tls.ServerName
import DynamicRpc.Tls.Setup
import DynamicRpc.Tls.Signature
import DynamicRpc.Tls.Verifier
import DynamicRpc.Wire.Basic
import DynamicRpc.Proofs.Base64
import DynamicRpc.Proofs.Wire.Consumption
import DynamicRpc.Proofs.Wire.Reading
import DynamicRpc.Proofs.Relay.EnvelopeText
import DynamicRpc.Proofs.Reflection.ExtensionIndex
import DynamicRpc.Proofs.Relay.Carrying
import DynamicRpc.Proofs.Relay.EnvelopeDelivery
import DynamicRpc.Proofs.Relay.Capacity
import DynamicRpc.Proofs.Relay.AnswerDelivery
import DynamicRpc.Proofs.Reflection.ImportCycles
import DynamicRpc.Proofs.Reflection.AllOrNothing
import DynamicRpc.Proofs.Reflection.InStep
import DynamicRpc.Proofs.Reflection.OneDialect
import DynamicRpc.Proofs.Rpc.Invocation
import DynamicRpc.Proofs.Schema.Collecting
import DynamicRpc.Proofs.Schema.Relinking
import DynamicRpc.Proofs.Reflection.StuckFiles
import DynamicRpc.Proofs.Reflection.BatchOrder
import DynamicRpc.Proofs.Reflection.Portions
import DynamicRpc.Proofs.Reflection.Questions
import DynamicRpc.Proofs.Relay.CanonicalText
import DynamicRpc.Proofs.Relay.BodyLimit
import DynamicRpc.Proofs.Reflection.Agreement
import DynamicRpc.Proofs.Reflection.Refusals
import DynamicRpc.Proofs.Reflection.Received
import DynamicRpc.Proofs.Reflection.WholeBatches
import DynamicRpc.Proofs.Relay.LastSource
import DynamicRpc.Proofs.Http.Uri
import DynamicRpc.Proofs.Relay.Targets
import DynamicRpc.Proofs.Rpc.CallAuthority
import DynamicRpc.Proofs.Rpc.Metadata
import DynamicRpc.Proofs.CommandLine.Overlay
import DynamicRpc.Proofs.CommandLine.Reading
import DynamicRpc.Proofs.CommandLine.PairedFlags
import DynamicRpc.Proofs.Tls.Bundle
import DynamicRpc.Proofs.Schema.TypeNames
import DynamicRpc.Proofs.Schema.FieldLines
import DynamicRpc.Proofs.Reflection.SuppliedBatches
import DynamicRpc.Proofs.Schema.Descriptions
import DynamicRpc.Proofs.Schema.NestedTypes
