import RpcBindings.Answer
import RpcBindings.Cli.Arguments
import RpcBindings.Cli.Help
import RpcBindings.Cli.Run
import RpcBindings.Config
import RpcBindings.Data.Calendar
import RpcBindings.Data.Value
import RpcBindings.Descriptor.Basic
import RpcBindings.Descriptor.Pagination
import RpcBindings.Descriptor.WellKnown
import RpcBindings.DescriptorFile
import RpcBindings.Digest.Sha256
import RpcBindings.Document.Descriptors
import RpcBindings.Document.Schema
import RpcBindings.Document.Scope
import RpcBindings.Export.Manifest
import RpcBindings.Export.Write
import RpcBindings.Failure
import RpcBindings.Files.Tree
import RpcBindings.Files.Write
import RpcBindings.Generation.Report
import RpcBindings.Generation.Run
import RpcBindings.Imports
import RpcBindings.Json.Reader
import RpcBindings.Json.Text
import RpcBindings.Json.Writer
import RpcBindings.Log
import RpcBindings.Main
import RpcBindings.Naming
import RpcBindings.Number.Binary64
import RpcBindings.Number.Rounding
import RpcBindings.Path.Lexical
import RpcBindings.Path.Location
import RpcBindings.Proofs.Assignments
import RpcBindings.Proofs.Config
import RpcBindings.Proofs.Config.Integers
import RpcBindings.Proofs.Config.Merged
import RpcBindings.Proofs.Descriptor.Closed
import RpcBindings.Proofs.Descriptor.Linked
import RpcBindings.Proofs.Descriptor.Loaded
import RpcBindings.Proofs.Descriptor.Pagination
import RpcBindings.Proofs.Descriptor.Within
import RpcBindings.Proofs.Document.Accepted
import RpcBindings.Proofs.Document.AsRequest
import RpcBindings.Proofs.Document.Reordered
import RpcBindings.Proofs.Document.Resolution
import RpcBindings.Proofs.Document.Scope
import RpcBindings.Proofs.Document.WellFormed
import RpcBindings.Proofs.Document.Wiring
import RpcBindings.Proofs.Export.Again
import RpcBindings.Proofs.Export.Confined
import RpcBindings.Proofs.Export.Contents
import RpcBindings.Proofs.Export.Manifest
import RpcBindings.Proofs.Export.Prepared
import RpcBindings.Proofs.Export.Reread
import RpcBindings.Proofs.Export.Written
import RpcBindings.Proofs.Files.Atomic
import RpcBindings.Proofs.Files.Changes
import RpcBindings.Proofs.Files.Directories
import RpcBindings.Proofs.Files.Ends
import RpcBindings.Proofs.Files.Refused
import RpcBindings.Proofs.Files.Sound
import RpcBindings.Proofs.Files.Temporary
import RpcBindings.Proofs.Files.Tree
import RpcBindings.Proofs.Files.Write
import RpcBindings.Proofs.Generation.Again
import RpcBindings.Proofs.Generation.Answers
import RpcBindings.Proofs.Generation.Drivers
import RpcBindings.Proofs.Generation.Order
import RpcBindings.Proofs.Generation.Reported
import RpcBindings.Proofs.Generation.Reread
import RpcBindings.Proofs.Generation.Transport
import RpcBindings.Proofs.Generation.Writing
import RpcBindings.Proofs.Imports.Existence
import RpcBindings.Proofs.Imports.FirstUse
import RpcBindings.Proofs.Imports.Grouped
import RpcBindings.Proofs.Imports.Identifiers
import RpcBindings.Proofs.Imports.Modules
import RpcBindings.Proofs.Json.Literal
import RpcBindings.Proofs.Json.Markup
import RpcBindings.Proofs.Json.Numbers
import RpcBindings.Proofs.Json.RoundTrip
import RpcBindings.Proofs.Json.Written
import RpcBindings.Proofs.Lookup
import RpcBindings.Proofs.Naming.Invalidation
import RpcBindings.Proofs.Naming.Resource
import RpcBindings.Proofs.Path.Joined
import RpcBindings.Proofs.Path.Normal
import RpcBindings.Proofs.Path.Parts
import RpcBindings.Proofs.Path.Relative
import RpcBindings.Proofs.Permuted
import RpcBindings.Proofs.Rendering.Bundled
import RpcBindings.Proofs.Rendering.Client
import RpcBindings.Proofs.Rendering.Exact
import RpcBindings.Proofs.Rendering.Files
import RpcBindings.Proofs.Rendering.Functions
import RpcBindings.Proofs.Rendering.Hooks
import RpcBindings.Proofs.Rendering.Links
import RpcBindings.Proofs.Rendering.Printer
import RpcBindings.Proofs.Request.Encoded
import RpcBindings.Proofs.Request.Entries
import RpcBindings.Proofs.Request.Faithful
import RpcBindings.Proofs.Request.Linked
import RpcBindings.Proofs.Request.Parameter
import RpcBindings.Proofs.Request.Part
import RpcBindings.Proofs.Request.Resolution
import RpcBindings.Proofs.Request.Wiring
import RpcBindings.Proofs.Sequence
import RpcBindings.Proofs.Template.Bundled
import RpcBindings.Proofs.Template.Render
import RpcBindings.Proofs.Text.Erase
import RpcBindings.Proofs.Text.Pieces
import RpcBindings.Proofs.Text.Search
import RpcBindings.Proofs.Text.Trimmed
import RpcBindings.Proofs.Wire.Format
import RpcBindings.Proofs.Wire.Nested
import RpcBindings.Proofs.Wire.Padded
import RpcBindings.Rendering
import RpcBindings.Rendering.Sources
import RpcBindings.Request.Basic
import RpcBindings.Request.Descriptors
import RpcBindings.Request.Parameter
import RpcBindings.Schema.Check
import RpcBindings.Template.Basic
import RpcBindings.Template.Bundled
import RpcBindings.Template.Parse
import RpcBindings.Template.Piece
import RpcBindings.Template.Render
import RpcBindings.Template.Token
import RpcBindings.Template.Value
import RpcBindings.Text.Blank
import RpcBindings.Text.Case
import RpcBindings.Text.CaseTable
import RpcBindings.Text.Digit
import RpcBindings.Text.Lines
import RpcBindings.Text.PrintableTable
import RpcBindings.Text.Quoted
import RpcBindings.Text.Ranges
import RpcBindings.Text.Search
import RpcBindings.Text.Utf8
import RpcBindings.ViewModel
import RpcBindings.Wire.Field
import RpcBindings.Wire.Request
import RpcBindings.Wire.Response
import RpcBindings.Wire.Shape
import RpcBindings.Wire.Varint
import RpcBindings.Yaml.Fault
import RpcBindings.Yaml.Node
import RpcBindings.Yaml.Reader
import RpcBindings.Yaml.Scalar
import RpcBindings.Yaml.Tag
import RpcBindings.Yaml.Token
