import RecordMapper.Action
import RecordMapper.Batch.Account
import RecordMapper.Batch.FileRun
import RecordMapper.Batch.Report
import RecordMapper.Batch.Run
import RecordMapper.Checked
import RecordMapper.Command.Arguments
import RecordMapper.Command.Footprint
import RecordMapper.Command.Run
import RecordMapper.Config.Options
import RecordMapper.Config.Policy
import RecordMapper.Config.Settings
import RecordMapper.Demand
import RecordMapper.Disk.File
import RecordMapper.Disk.Path
import RecordMapper.Disk.Tree
import RecordMapper.Failure
import RecordMapper.Input
import RecordMapper.InputFile
import RecordMapper.Json.Printer
import RecordMapper.Json.Reader
import RecordMapper.Main
import RecordMapper.Naming
import RecordMapper.Naming.Identifier
import RecordMapper.Notice
import RecordMapper.Number.Binary64
import RecordMapper.Number.Decimal
import RecordMapper.Output.Event
import RecordMapper.Output.Session
import RecordMapper.Output.TableOutput
import RecordMapper.Output.Unit
import RecordMapper.Proofs.Batch.ClassNames
import RecordMapper.Proofs.Batch.Forced
import RecordMapper.Proofs.Batch.Rerun
import RecordMapper.Proofs.Batch.Segments
import RecordMapper.Proofs.Batch.TableRequests
import RecordMapper.Proofs.Batch.Turns
import RecordMapper.Proofs.Batch.Unforced
import RecordMapper.Proofs.Command.Checking
import RecordMapper.Proofs.Command.Echo
import RecordMapper.Proofs.Command.Generation
import RecordMapper.Proofs.Command.Loading
import RecordMapper.Proofs.Command.Requests
import RecordMapper.Proofs.Command.Selection
import RecordMapper.Proofs.Command.Switches
import RecordMapper.Proofs.Config.Given
import RecordMapper.Proofs.Config.Overrides
import RecordMapper.Proofs.Disk.Blocked
import RecordMapper.Proofs.Disk.Growth
import RecordMapper.Proofs.Disk.Hidden
import RecordMapper.Proofs.Disk.Replacement
import RecordMapper.Proofs.Document.Configs
import RecordMapper.Proofs.Document.DefaultNames
import RecordMapper.Proofs.Document.Malformed
import RecordMapper.Proofs.Document.NormalForm
import RecordMapper.Proofs.Document.Readers
import RecordMapper.Proofs.Document.SetFields
import RecordMapper.Proofs.Document.Tables
import RecordMapper.Proofs.Json.RoundTrip
import RecordMapper.Proofs.Json.Scalars
import RecordMapper.Proofs.Naming.Alias
import RecordMapper.Proofs.Naming.Capital
import RecordMapper.Proofs.Naming.Identifier
import RecordMapper.Proofs.Naming.Merging
import RecordMapper.Proofs.Naming.SnakeCase
import RecordMapper.Proofs.Output.Artefact
import RecordMapper.Proofs.Output.History
import RecordMapper.Proofs.Output.LineBreaks
import RecordMapper.Proofs.Output.Manifest
import RecordMapper.Proofs.Output.NamedFiles
import RecordMapper.Proofs.Output.Places
import RecordMapper.Proofs.Output.Request
import RecordMapper.Proofs.Output.Row
import RecordMapper.Proofs.Source.ArbitraryNames
import RecordMapper.Proofs.Source.Assembly
import RecordMapper.Proofs.Source.Bindings
import RecordMapper.Proofs.Source.Converters
import RecordMapper.Proofs.Source.CreatedRecord
import RecordMapper.Proofs.Source.Emission
import RecordMapper.Proofs.Source.Filling
import RecordMapper.Proofs.Source.Generators
import RecordMapper.Proofs.Source.Groups
import RecordMapper.Proofs.Source.NameLiterals
import RecordMapper.Proofs.Source.NestedBodies
import RecordMapper.Proofs.Source.NestedModel
import RecordMapper.Proofs.Source.NestedParts
import RecordMapper.Proofs.Source.NestedSpec
import RecordMapper.Proofs.Source.Nesting
import RecordMapper.Proofs.Source.Operations
import RecordMapper.Proofs.Source.Parts
import RecordMapper.Proofs.Source.Scopes
import RecordMapper.Proofs.Source.SpecCalls
import RecordMapper.Proofs.Source.Styles
import RecordMapper.Proofs.Source.TypeImports
import RecordMapper.Proofs.Source.WriteLists
import RecordMapper.Proofs.Text.Brackets
import RecordMapper.Proofs.Text.Case
import RecordMapper.Proofs.Text.Lines
import RecordMapper.Proofs.Text.Literals
import RecordMapper.Proofs.Text.LowerCase
import RecordMapper.Proofs.Validation.ClassNames
import RecordMapper.Proofs.Validation.Conditions
import RecordMapper.Proofs.Validation.Decision
import RecordMapper.Proofs.Validation.FieldCollisions
import RecordMapper.Proofs.Validation.Fields
import RecordMapper.Proofs.Validation.Names
import RecordMapper.Proofs.Validation.OneLine
import RecordMapper.Proofs.Validation.Origins
import RecordMapper.Proofs.Validation.Selection
import RecordMapper.Proofs.View.Partitions
import RecordMapper.Proofs.View.Subsets
import RecordMapper.ScalaType
import RecordMapper.Schema.Column
import RecordMapper.Schema.JdbcType
import RecordMapper.Schema.Table
import RecordMapper.Source.Arbitrary
import RecordMapper.Source.Collection
import RecordMapper.Source.Fragment
import RecordMapper.Source.Imports
import RecordMapper.Source.Layout
import RecordMapper.Source.Model
import RecordMapper.Source.Spec
import RecordMapper.Source.SpecBody
import RecordMapper.Source.Statement
import RecordMapper.Target
import RecordMapper.Text.Case
import RecordMapper.Text.CaseData
import RecordMapper.Text.CharClass
import RecordMapper.Text.CharData
import RecordMapper.Text.Digest
import RecordMapper.Text.Encoding
import RecordMapper.Text.EncodingNames
import RecordMapper.Text.Lines
import RecordMapper.Text.Quoted
import RecordMapper.Validation.Checkup
import RecordMapper.Validation.Issue
import RecordMapper.Validation.Names
import RecordMapper.Validation.Report
import RecordMapper.Value
import RecordMapper.View.Column
import RecordMapper.View.Table
import RecordMapper.Yaml.Cursor
import RecordMapper.Yaml.Reader
import RecordMapper.Yaml.Scalar
import RecordMapper.Yaml.Token
