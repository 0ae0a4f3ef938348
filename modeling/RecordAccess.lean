import RecordAccess.Classification
import RecordAccess.Command.Arguments
import RecordAccess.Command.Decision
import RecordAccess.Command.Line
import RecordAccess.Command.Run
import RecordAccess.Config.Layer
import RecordAccess.Config.Load
import RecordAccess.Config.Reading
import RecordAccess.Config.Value
import RecordAccess.Config.Variable
import RecordAccess.Description
import RecordAccess.Diff.Compact
import RecordAccess.Diff.Shortest
import RecordAccess.Error
import RecordAccess.Field.Spec
import RecordAccess.Field.Tag
import RecordAccess.Formatter
import RecordAccess.Fragment
import RecordAccess.Generation
import RecordAccess.Host.Tree
import RecordAccess.Host.View
import RecordAccess.Json.Fault
import RecordAccess.Json.Layout
import RecordAccess.Json.Literal
import RecordAccess.Json.Numeral
import RecordAccess.Json.Skip
import RecordAccess.Main
import RecordAccess.Manifest
import RecordAccess.Number.Double
import RecordAccess.Number.Shortest
import RecordAccess.Operation
import RecordAccess.Proofs.Classification.Naming
import RecordAccess.Proofs.Classification.Verdict
import RecordAccess.Proofs.Command.Effects
import RecordAccess.Proofs.Command.Generating
import RecordAccess.Proofs.Command.Precedence
import RecordAccess.Proofs.Config.Keys
import RecordAccess.Proofs.Config.Loading
import RecordAccess.Proofs.Config.Overlay
import RecordAccess.Proofs.Config.Variables
import RecordAccess.Proofs.Description.Interchange
import RecordAccess.Proofs.Diff.Edits
import RecordAccess.Proofs.Field.CompactText
import RecordAccess.Proofs.Field.TagGrammar
import RecordAccess.Proofs.Formatter.Literals
import RecordAccess.Proofs.Formatter.NormalForm
import RecordAccess.Proofs.Generation.Backquotes
import RecordAccess.Proofs.Generation.Checked
import RecordAccess.Proofs.Generation.ColumnLists
import RecordAccess.Proofs.Generation.Composition
import RecordAccess.Proofs.Generation.EmptyNames
import RecordAccess.Proofs.Generation.FieldLists
import RecordAccess.Proofs.Generation.Header
import RecordAccess.Proofs.Generation.Outcome
import RecordAccess.Proofs.Generation.Overriding
import RecordAccess.Proofs.Generation.Packages
import RecordAccess.Proofs.Generation.ReturnedRows
import RecordAccess.Proofs.Generation.Schedules
import RecordAccess.Proofs.Generation.SourceUnits
import RecordAccess.Proofs.Host.Trees
import RecordAccess.Proofs.Json.Grammar
import RecordAccess.Proofs.Json.Passing
import RecordAccess.Proofs.Json.Readers
import RecordAccess.Proofs.Json.Strings
import RecordAccess.Proofs.Json.Structures
import RecordAccess.Proofs.Manifest.Lookup
import RecordAccess.Proofs.Manifest.Spelling
import RecordAccess.Proofs.Record.Positions
import RecordAccess.Proofs.Record.Repeats
import RecordAccess.Proofs.Registry.Answers
import RecordAccess.Proofs.Registry.Arrivals
import RecordAccess.Proofs.Registry.Confluence
import RecordAccess.Proofs.Registry.FirstRequests
import RecordAccess.Proofs.Registry.Imports
import RecordAccess.Proofs.Registry.Interleaving
import RecordAccess.Proofs.Registry.Scheduled
import RecordAccess.Proofs.Roles.Calls
import RecordAccess.Proofs.Roles.FieldLists
import RecordAccess.Proofs.Roles.Reachable
import RecordAccess.Proofs.Roles.Reordering
import RecordAccess.Proofs.Roles.Tables
import RecordAccess.Proofs.Roles.WellFormed
import RecordAccess.Proofs.Source.Faults
import RecordAccess.Proofs.Source.Gaps
import RecordAccess.Proofs.Source.Outline
import RecordAccess.Proofs.Source.Reading
import RecordAccess.Proofs.Source.Tidying
import RecordAccess.Proofs.Source.Tokens
import RecordAccess.Proofs.Sql.Alignment
import RecordAccess.Proofs.Sql.Characters
import RecordAccess.Proofs.Sql.Deletion
import RecordAccess.Proofs.Sql.Execution
import RecordAccess.Proofs.Sql.Filters
import RecordAccess.Proofs.Sql.Names
import RecordAccess.Proofs.Sql.Parsing
import RecordAccess.Proofs.Sql.Predicates
import RecordAccess.Proofs.Sql.ReadBack
import RecordAccess.Proofs.Sql.Tokens
import RecordAccess.Proofs.Template.Mentions
import RecordAccess.Proofs.Template.Rendering
import RecordAccess.Proofs.Template.Source
import RecordAccess.Proofs.Template.Strict
import RecordAccess.Proofs.Template.Wholeness
import RecordAccess.Proofs.Text.Characters
import RecordAccess.Proofs.Toml.Lines
import RecordAccess.Record
import RecordAccess.Registry
import RecordAccess.Registry.Declaration
import RecordAccess.Roles
import RecordAccess.Settings
import RecordAccess.Source.Check
import RecordAccess.Sql.Statement
import RecordAccess.Template
import RecordAccess.Template.Context
import RecordAccess.Template.Functions
import RecordAccess.Text.Blank
import RecordAccess.Text.Letters
import RecordAccess.Text.Lowercase
import RecordAccess.Text.Quoted
import RecordAccess.Text.Utf8
import RecordAccess.Toml.Document
import RecordAccess.Toml.Literal
import RecordAccess.Toml.Scalar
