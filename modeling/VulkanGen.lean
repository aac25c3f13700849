import VulkanGen.Artifact.Delivery
import VulkanGen.Artifact.Interface
import VulkanGen.Artifact.Table
import VulkanGen.Artifact.TableReader
import VulkanGen.Block
import VulkanGen.Block.Conditional
import VulkanGen.Catalog
import VulkanGen.Command
import VulkanGen.Command.Failure
import VulkanGen.Command.Line
import VulkanGen.Command.Outcome
import VulkanGen.Command.Usage
import VulkanGen.Config
import VulkanGen.Declaration.Grammar
import VulkanGen.Declaration.Layout
import VulkanGen.Declaration.Malformation
import VulkanGen.Declaration.Parser
import VulkanGen.Declaration.Span
import VulkanGen.Diagnostic
import VulkanGen.Disk
import VulkanGen.Document
import VulkanGen.FunctionTable
import VulkanGen.FunctionTable.Attribution
import VulkanGen.FunctionTable.Listing
import VulkanGen.Generation
import VulkanGen.Header
import VulkanGen.Header.Load
import VulkanGen.Header.Shift
import VulkanGen.Host
import VulkanGen.Inspection
import VulkanGen.Json
import VulkanGen.Layout
import VulkanGen.Layout.Bracketed
import VulkanGen.Layout.Listing
import VulkanGen.Main
import VulkanGen.Manifest
import VulkanGen.OutputFormat
import VulkanGen.Parameter
import VulkanGen.Parameter.Step
import VulkanGen.Path
import VulkanGen.Proofs.Artifact.Placement
import VulkanGen.Proofs.Artifact.ReadBack
import VulkanGen.Proofs.Artifact.Rollback
import VulkanGen.Proofs.Artifact.TableRoundTrip
import VulkanGen.Proofs.Block.Extensions
import VulkanGen.Proofs.Block.Matching
import VulkanGen.Proofs.Block.Opening
import VulkanGen.Proofs.Block.Ordering
import VulkanGen.Proofs.Block.Regions
import VulkanGen.Proofs.Catalog.RoundTrip
import VulkanGen.Proofs.Command.Delivery
import VulkanGen.Proofs.Command.Generate
import VulkanGen.Proofs.Declaration.Accounting
import VulkanGen.Proofs.Declaration.Derivation
import VulkanGen.Proofs.Declaration.Layouts
import VulkanGen.Proofs.Declaration.OpenSpans
import VulkanGen.Proofs.Declaration.Readers
import VulkanGen.Proofs.Declaration.Spans
import VulkanGen.Proofs.Declaration.Unambiguous
import VulkanGen.Proofs.Disk.Files
import VulkanGen.Proofs.FunctionTable.Attribution
import VulkanGen.Proofs.FunctionTable.Contents
import VulkanGen.Proofs.FunctionTable.Growth
import VulkanGen.Proofs.FunctionTable.Layout
import VulkanGen.Proofs.FunctionTable.Lookup
import VulkanGen.Proofs.Generation.Closure
import VulkanGen.Proofs.Generation.Definitions
import VulkanGen.Proofs.Generation.Interface
import VulkanGen.Proofs.Generation.MoreHeaders
import VulkanGen.Proofs.Generation.Outcome
import VulkanGen.Proofs.Header.Accounting
import VulkanGen.Proofs.Header.Composition
import VulkanGen.Proofs.Header.Isolation
import VulkanGen.Proofs.Header.RoundTrip
import VulkanGen.Proofs.Layout.Breaking
import VulkanGen.Proofs.Layout.Listings
import VulkanGen.Proofs.Layout.Wrapping
import VulkanGen.Proofs.List.Basic
import VulkanGen.Proofs.Manifest.Discovery
import VulkanGen.Proofs.Parameter.Steps
import VulkanGen.Proofs.Token.Lexemes
import VulkanGen.Proofs.Token.Splitting
import VulkanGen.Proofs.Wrapper.Arguments
import VulkanGen.Proofs.Wrapper.Hygiene
import VulkanGen.Proofs.Wrapper.Lines
import VulkanGen.Proofs.Wrapper.Shape
import VulkanGen.Proofs.Wrapper.Signature
import VulkanGen.Proofs.Wrapper.Spelling
import VulkanGen.Proofs.Wrapper.Toggles
import VulkanGen.Proofs.Wrapper.Width
import VulkanGen.Prototype
import VulkanGen.Report
import VulkanGen.Settings
import VulkanGen.Text.Blank
import VulkanGen.Text.Digits
import VulkanGen.Text.Lines
import VulkanGen.Text.Runs
import VulkanGen.Text.Search
import VulkanGen.Text.Upper
import VulkanGen.Token
import VulkanGen.Toml.Lexical
import VulkanGen.Toml.Reader
import VulkanGen.Toml.Scalar
import VulkanGen.Toml.Tree
import VulkanGen.Wrapper
import VulkanGen.Wrapper.Code
import VulkanGen.Wrapper.Lines
import VulkanGen.Wrapper.Scope
