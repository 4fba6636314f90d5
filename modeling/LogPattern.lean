import LogPattern.Arguments.Grammar
import LogPattern.Arguments.Reader
import LogPattern.CodePoint.Bytes
import LogPattern.CodePoint.CaseFolding
import LogPattern.CodePoint.Category
import LogPattern.CodePoint.Category.Letter
import LogPattern.CodePoint.Category.Mark
import LogPattern.CodePoint.Category.Number
import LogPattern.CodePoint.Category.Other
import LogPattern.CodePoint.Category.Punctuation
import LogPattern.CodePoint.Category.Symbol
import LogPattern.CodePoint.Extender
import LogPattern.CodePoint.Property
import LogPattern.CodePoint.PropertyTable
import LogPattern.CodePoint.Script
import LogPattern.CodePoint.Set
import LogPattern.CodePoint.WhiteSpace
import LogPattern.CodePoint.Word
import LogPattern.Command.Error
import LogPattern.Command.Invocation
import LogPattern.Command.Logging
import LogPattern.Command.Run
import LogPattern.Command.Transcript
import LogPattern.Command.Validate
import LogPattern.EngineError
import LogPattern.FileTree
import LogPattern.FilterBlock
import LogPattern.Json.Reader
import LogPattern.Json.Value
import LogPattern.LogEvent
import LogPattern.Main
import LogPattern.Pattern.Compiled
import LogPattern.Pattern.Error
import LogPattern.Pattern.Expansion
import LogPattern.Pattern.FieldMap
import LogPattern.Pattern.Group
import LogPattern.Pattern.Literal
import LogPattern.Pattern.Token
import LogPattern.Proofs.Bytewise.Compile
import LogPattern.Proofs.Bytewise.Group
import LogPattern.Proofs.Bytewise.Literal
import LogPattern.Proofs.Bytewise.Opener
import LogPattern.Proofs.Bytewise.Slice
import LogPattern.Proofs.Bytewise.Token
import LogPattern.Proofs.FileTree
import LogPattern.Proofs.FilterBlock
import LogPattern.Proofs.KeyedList
import LogPattern.Proofs.Pattern.Composition
import LogPattern.Proofs.Pattern.Containment
import LogPattern.Proofs.Pattern.Division
import LogPattern.Proofs.Pattern.Doubling
import LogPattern.Proofs.Pattern.FieldGroups
import LogPattern.Proofs.Pattern.FieldMap
import LogPattern.Proofs.Pattern.FirstProblem
import LogPattern.Proofs.Pattern.GroupCount
import LogPattern.Proofs.Pattern.GroupScan
import LogPattern.Proofs.Pattern.Growth
import LogPattern.Proofs.Pattern.Labels
import LogPattern.Proofs.Pattern.Limit
import LogPattern.Proofs.Pattern.Nesting
import LogPattern.Proofs.Pattern.Piece
import LogPattern.Proofs.Pattern.PieceRun
import LogPattern.Proofs.Pattern.PlainGroups
import LogPattern.Proofs.Pattern.PlainText
import LogPattern.Proofs.Pattern.Reachability
import LogPattern.Proofs.Pattern.Readings
import LogPattern.Proofs.Pattern.References
import LogPattern.Proofs.Pattern.Relabeling
import LogPattern.Proofs.Pattern.Rescan
import LogPattern.Proofs.Pattern.SchemaOrder
import LogPattern.Proofs.Pattern.Spelling
import LogPattern.Proofs.Pattern.StandardLibrary
import LogPattern.Proofs.Pattern.Tokenize
import LogPattern.Proofs.Pattern.Walk
import LogPattern.Proofs.Regex.Action
import LogPattern.Proofs.Regex.ActionLocality
import LogPattern.Proofs.Regex.BracketLocality
import LogPattern.Proofs.Regex.ClassRun
import LogPattern.Proofs.Regex.Finding
import LogPattern.Proofs.Regex.GroupPlaces
import LogPattern.Proofs.Regex.Locality
import LogPattern.Proofs.Regex.Mirror
import LogPattern.Proofs.Regex.Quiet
import LogPattern.Proofs.Regex.Reading
import LogPattern.Proofs.Regex.Remainder
import LogPattern.Proofs.Regex.Renaming
import LogPattern.Proofs.Regex.Run
import LogPattern.Proofs.Regex.Spans
import LogPattern.Proofs.Regex.UnitTest
import LogPattern.Proofs.Regex.Unmarked
import LogPattern.Proofs.Regex.WholeMatch
import LogPattern.Proofs.Registry.Directory
import LogPattern.Proofs.Registry.PatternText
import LogPattern.Proofs.Registry.Precedence
import LogPattern.Proofs.Registry.Run
import LogPattern.Proofs.Registry.Views
import LogPattern.Proofs.Settings.Checks
import LogPattern.Proofs.Settings.Layers
import LogPattern.Proofs.Settings.Values
import LogPattern.Proofs.Success
import LogPattern.Proofs.Text.ByteOrder
import LogPattern.Proofs.Text.Lines
import LogPattern.Proofs.Text.Split
import LogPattern.Proofs.Validation.Accounting
import LogPattern.Proofs.Validation.Agreement
import LogPattern.Proofs.Validation.AllOrNothing
import LogPattern.Proofs.Validation.Answer
import LogPattern.Proofs.Validation.Calls
import LogPattern.Proofs.Validation.Collection
import LogPattern.Proofs.Validation.Commands
import LogPattern.Proofs.Validation.Compilation
import LogPattern.Proofs.Validation.Interleaving
import LogPattern.Proofs.Validation.Progress
import LogPattern.Regex.Basic
import LogPattern.Regex.Blank
import LogPattern.Regex.Bracket
import LogPattern.Regex.Escape
import LogPattern.Regex.Expr
import LogPattern.Regex.Fault
import LogPattern.Regex.Flags
import LogPattern.Regex.Footprint
import LogPattern.Regex.Parser
import LogPattern.Regex.Program
import LogPattern.Regex.Search
import LogPattern.Regex.Syntax
import LogPattern.Registry.Basic
import LogPattern.Registry.Builtin
import LogPattern.Registry.Directory
import LogPattern.Registry.FromSettings
import LogPattern.Registry.PatternFile
import LogPattern.Report.Basic
import LogPattern.Report.Pattern
import LogPattern.Report.Settings
import LogPattern.Report.Validation
import LogPattern.Settings.Basic
import LogPattern.Settings.Environment
import LogPattern.Settings.Load
import LogPattern.Settings.Printer
import LogPattern.Settings.Reader
import LogPattern.Settings.Rules
import LogPattern.Text.Column
import LogPattern.Text.Decimal
import LogPattern.Text.Digit
import LogPattern.Text.Quoted
import LogPattern.Text.Reader
import LogPattern.Text.Split
import LogPattern.Toml.Document
import LogPattern.Toml.Printer
import LogPattern.Toml.Quoted
import LogPattern.Toml.Scalar
import LogPattern.Toml.Statement
import LogPattern.Validation.Cancellation
import LogPattern.Validation.Definition
import LogPattern.Validation.DefinitionFile
import LogPattern.Validation.Engine
import LogPattern.Validation.Envelope
import LogPattern.Validation.Line
import LogPattern.Validation.Metric
import LogPattern.Validation.Outcome
import LogPattern.Validation.Workers
import LogPattern.Yaml.Content
import LogPattern.Yaml.Cursor
import LogPattern.Yaml.Node
import LogPattern.Yaml.Scalar
import LogPattern.Yaml.Tag
import LogPattern.Yaml.Token
