import CompilerGateway.AliasTable
import CompilerGateway.Artifact
import CompilerGateway.Artifact.Wire
import CompilerGateway.Backend
import CompilerGateway.Backend.Operation
import CompilerGateway.Backend.Request
import CompilerGateway.Backend.Scripted
import CompilerGateway.Binary64
import CompilerGateway.Decimal.Natural
import CompilerGateway.Decimal.Shortest
import CompilerGateway.Diagnostic
import CompilerGateway.Diagnostic.Wire
import CompilerGateway.Event
import CompilerGateway.Event.Line
import CompilerGateway.Failure
import CompilerGateway.FileSystem
import CompilerGateway.Gateway
import CompilerGateway.Gateway.EntryPoint
import CompilerGateway.Gateway.FileHandle
import CompilerGateway.Gateway.Operations
import CompilerGateway.Gateway.Packages
import CompilerGateway.HostPath
import CompilerGateway.Json
import CompilerGateway.Json.Overlay
import CompilerGateway.Json.Parser
import CompilerGateway.Json.Printer
import CompilerGateway.Outcome
import CompilerGateway.Package.Descriptor
import CompilerGateway.Package.FetchTable
import CompilerGateway.Package.Fetched
import CompilerGateway.Package.LocalTree
import CompilerGateway.Package.Naming
import CompilerGateway.Package.Rounds
import CompilerGateway.Package.Window
import CompilerGateway.Proofs.Attempts
import CompilerGateway.Proofs.BreakOff
import CompilerGateway.Proofs.ByteOrder
import CompilerGateway.Proofs.Calls
import CompilerGateway.Proofs.CompleteLoad
import CompilerGateway.Proofs.Conduct
import CompilerGateway.Proofs.Confinement
import CompilerGateway.Proofs.FetchWindow
import CompilerGateway.Proofs.FileTable
import CompilerGateway.Proofs.Installation
import CompilerGateway.Proofs.Interleaving
import CompilerGateway.Proofs.Invocation
import CompilerGateway.Proofs.Loading
import CompilerGateway.Proofs.Operations
import CompilerGateway.Proofs.PackageTable
import CompilerGateway.Proofs.Paths
import CompilerGateway.Proofs.Registrations
import CompilerGateway.Proofs.Restoration
import CompilerGateway.Session
import CompilerGateway.Session.Action
import CompilerGateway.Session.PackageSource
import CompilerGateway.Session.Rehearsal
import CompilerGateway.Settings
import CompilerGateway.Settings.ConfigFile
import CompilerGateway.Settings.Environment
import CompilerGateway.Settings.Flags
import CompilerGateway.Settings.Layers
import CompilerGateway.Settings.Loader
import CompilerGateway.Table
import CompilerGateway.Telemetry
import CompilerGateway.Telemetry.Filter
import CompilerGateway.Text.Alphanumeric
import CompilerGateway.Text.Blank
import CompilerGateway.Text.Bytes
import CompilerGateway.Text.Escapes
import CompilerGateway.Text.Lowercase
import CompilerGateway.Text.Numbered
import CompilerGateway.Text.Quoted
import CompilerGateway.Text.Ranges
import CompilerGateway.Text.Segments
import CompilerGateway.Text.Utf8
import CompilerGateway.Toml.Branch
import CompilerGateway.Toml.DateTable
import CompilerGateway.Toml.Document
import CompilerGateway.Toml.Lexis
import CompilerGateway.Toml.Scalar
import CompilerGateway.Tree
import CompilerGateway.VirtualPath
import CompilerGateway.Wire.Decoding
import CompilerGateway.Proofs.Chronicle
import CompilerGateway.Proofs.Contents
import CompilerGateway.Proofs.Decoding
import CompilerGateway.Proofs.Discretion
import CompilerGateway.Proofs.FaithfulLog
import CompilerGateway.Proofs.WireForm
import CompilerGateway.Proofs.LocalFiles
import CompilerGateway.Proofs.LocalPackages
import CompilerGateway.Proofs.Containment
import CompilerGateway.Proofs.EntryRanking
import CompilerGateway.Proofs.ForeignPackages
import CompilerGateway.Proofs.DescriptorText
import CompilerGateway.Proofs.AliasHistory
import CompilerGateway.Proofs.RawOutcomes
import CompilerGateway.Proofs.LocalWalk
import CompilerGateway.Proofs.ListingOrder
import CompilerGateway.Proofs.TrailingSlashes
import CompilerGateway.Proofs.LogSetup
import CompilerGateway.Proofs.WellFormedBytes
import CompilerGateway.Proofs.TextBoundary
import CompilerGateway.Proofs.CommandLines
import CompilerGateway.Proofs.LayeredSettings
import CompilerGateway.Proofs.JoinedPaths
import CompilerGateway.Proofs.NestedDirectories
