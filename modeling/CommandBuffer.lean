import CommandBuffer.Artifact.Blueprint
import CommandBuffer.Artifact.Bundle
import CommandBuffer.Artifact.ClientTests
import CommandBuffer.Artifact.CommandFormat
import CommandBuffer.Artifact.CommandTable
import CommandBuffer.Artifact.Documentation
import CommandBuffer.Artifact.Emission
import CommandBuffer.Artifact.FormatTests
import CommandBuffer.Artifact.HandlerTests
import CommandBuffer.Artifact.Handlers
import CommandBuffer.Artifact.Init
import CommandBuffer.Artifact.Interface
import CommandBuffer.Artifact.Kind
import CommandBuffer.Artifact.Marshaling
import CommandBuffer.Artifact.TestOutcome
import CommandBuffer.Artifact.TestValue
import CommandBuffer.Artifact.TypeMap
import CommandBuffer.Artifact.Validators
import CommandBuffer.Artifact.Writers
import CommandBuffer.Code.Demand
import CommandBuffer.Code.Lexer
import CommandBuffer.Code.Literal
import CommandBuffer.Code.ModulePath
import CommandBuffer.Code.ModulePathReader
import CommandBuffer.Code.Name
import CommandBuffer.Code.Reader
import CommandBuffer.Code.Token
import CommandBuffer.Code.Tree
import CommandBuffer.Code.TreeTokens
import CommandBuffer.CommandLine.Options
import CommandBuffer.CommandLine.Run
import CommandBuffer.CommandLine.Switch
import CommandBuffer.Decimal.Single
import CommandBuffer.Definition.Error
import CommandBuffer.Definition.NamedType
import CommandBuffer.Definition.Override
import CommandBuffer.Definition.Protocol
import CommandBuffer.Definition.Registry
import CommandBuffer.Definition.Strategy
import CommandBuffer.Diagnostics
import CommandBuffer.Dump
import CommandBuffer.Generation
import CommandBuffer.Layout.Command
import CommandBuffer.Layout.Error
import CommandBuffer.Layout.Plan
import CommandBuffer.Layout.Scalar
import CommandBuffer.Log.Entry
import CommandBuffer.Log.Filter
import CommandBuffer.Log.Run
import CommandBuffer.Main
import CommandBuffer.Naming
import CommandBuffer.Outcome
import CommandBuffer.Pipeline
import CommandBuffer.Preset.Raster
import CommandBuffer.Proofs.Admission
import CommandBuffer.Proofs.Bundles
import CommandBuffer.Proofs.ClientDirectives
import CommandBuffer.Proofs.ClientFunctions
import CommandBuffer.Proofs.ClosedWriters
import CommandBuffer.Proofs.CommandCollisions
import CommandBuffer.Proofs.CommandNames
import CommandBuffer.Proofs.CommandTable
import CommandBuffer.Proofs.CountAgreement
import CommandBuffer.Proofs.CrossReferences
import CommandBuffer.Proofs.ElementCount
import CommandBuffer.Proofs.Emission
import CommandBuffer.Proofs.Execution.Assignments
import CommandBuffer.Proofs.Execution.Counts
import CommandBuffer.Proofs.Execution.Init
import CommandBuffer.Proofs.Execution.Integers
import CommandBuffer.Proofs.Execution.Run
import CommandBuffer.Proofs.Execution.Scalars
import CommandBuffer.Proofs.Execution.Service
import CommandBuffer.Proofs.Execution.Value
import CommandBuffer.Proofs.FieldReads
import CommandBuffer.Proofs.GetterSizes
import CommandBuffer.Proofs.Growth
import CommandBuffer.Proofs.HandlerTests.Passing
import CommandBuffer.Proofs.HandlerTests.Staging
import CommandBuffer.Proofs.HandlerTests.Supply
import CommandBuffer.Proofs.Hygiene.Capture
import CommandBuffer.Proofs.Hygiene.ClientTests
import CommandBuffer.Proofs.Hygiene.FormatTests
import CommandBuffer.Proofs.Hygiene.HandlerTests
import CommandBuffer.Proofs.Hygiene.Handlers
import CommandBuffer.Proofs.Hygiene.Scopes
import CommandBuffer.Proofs.Hygiene.Writers
import CommandBuffer.Proofs.InferredStrategies
import CommandBuffer.Proofs.Margins
import CommandBuffer.Proofs.Marshaling.Closure
import CommandBuffer.Proofs.Marshaling.Entries
import CommandBuffer.Proofs.Marshaling.Refusals
import CommandBuffer.Proofs.Marshaling.Results
import CommandBuffer.Proofs.Marshaling.Steps
import CommandBuffer.Proofs.Marshaling.Types
import CommandBuffer.Proofs.NameWords
import CommandBuffer.Proofs.NamedTypes
import CommandBuffer.Proofs.Names
import CommandBuffer.Proofs.NegativeCounts
import CommandBuffer.Proofs.Numbering
import CommandBuffer.Proofs.Outcome
import CommandBuffer.Proofs.OverrideOrder
import CommandBuffer.Proofs.Pairing
import CommandBuffer.Proofs.Partition
import CommandBuffer.Proofs.Planning
import CommandBuffer.Proofs.PointerLayouts
import CommandBuffer.Proofs.Reading.Grouping
import CommandBuffer.Proofs.Reading.ReadBack
import CommandBuffer.Proofs.Reading.Reader
import CommandBuffer.Proofs.Reading.Shapes
import CommandBuffer.Proofs.Reading.Splices
import CommandBuffer.Proofs.Reads
import CommandBuffer.Proofs.Records
import CommandBuffer.Proofs.Registration
import CommandBuffer.Proofs.Repetition
import CommandBuffer.Proofs.RoundTrip
import CommandBuffer.Proofs.Signature.Declarations
import CommandBuffer.Proofs.Signature.Grammar
import CommandBuffer.Proofs.Signature.Insertion
import CommandBuffer.Proofs.Signature.Lines
import CommandBuffer.Proofs.Signature.Printing
import CommandBuffer.Proofs.Signature.Reports
import CommandBuffer.Proofs.Signature.Types
import CommandBuffer.Proofs.Sizing
import CommandBuffer.Proofs.SnakeCase
import CommandBuffer.Proofs.SnakeForm
import CommandBuffer.Proofs.Spelling.Client
import CommandBuffer.Proofs.Spelling.Commands
import CommandBuffer.Proofs.Spelling.Coverage
import CommandBuffer.Proofs.Spelling.Demanded
import CommandBuffer.Proofs.Spelling.Service
import CommandBuffer.Proofs.Spelling.Shared
import CommandBuffer.Proofs.Spelling.Soundness
import CommandBuffer.Proofs.Spelling.Words
import CommandBuffer.Proofs.Storage.Lookup
import CommandBuffer.Proofs.Storage.Operations
import CommandBuffer.Proofs.Storage.Places
import CommandBuffer.Proofs.Storage.Replacement
import CommandBuffer.Proofs.Storage.Rollback
import CommandBuffer.Proofs.Storage.Staging
import CommandBuffer.Proofs.Synthesis
import CommandBuffer.Proofs.TestOmissions
import CommandBuffer.Proofs.Text.Cutting
import CommandBuffer.Proofs.ValidatedTypes
import CommandBuffer.Proofs.Validation
import CommandBuffer.Proofs.ValidatorNames
import CommandBuffer.Record.Basic
import CommandBuffer.Record.Build
import CommandBuffer.Record.CrossCheck
import CommandBuffer.Record.Dump
import CommandBuffer.Record.Error
import CommandBuffer.Signature.CType
import CommandBuffer.Signature.Error
import CommandBuffer.Signature.File
import CommandBuffer.Signature.Shape
import CommandBuffer.Storage.FileStore
import CommandBuffer.Storage.FileTree
import CommandBuffer.Storage.Path
import CommandBuffer.Storage.Staging
import CommandBuffer.Text.Blank
import CommandBuffer.Text.IdentifierClass
import CommandBuffer.Text.Letter
import CommandBuffer.Text.LetterCase
import CommandBuffer.Text.Pieces
import CommandBuffer.Text.Printable
import CommandBuffer.Text.Quoted
import CommandBuffer.Text.Ranges
import CommandBuffer.Text.Words
import CommandBuffer.Validator
