import BuildDispatch.Bytes
import BuildDispatch.Bytes.Utf8
import BuildDispatch.Command
import BuildDispatch.Command.Process
import BuildDispatch.Command.Rendering
import BuildDispatch.Command.ShellLine
import BuildDispatch.CommandLine
import BuildDispatch.CommandLine.Grammar
import BuildDispatch.CommandLine.Help
import BuildDispatch.Config
import BuildDispatch.Config.File
import BuildDispatch.Config.Schema
import BuildDispatch.Config.SchemaError
import BuildDispatch.Config.Spelling
import BuildDispatch.Config.Validity
import BuildDispatch.Decimal.Binary64
import BuildDispatch.Decimal.Calculation
import BuildDispatch.Decimal.Hexadecimal
import BuildDispatch.Decimal.Power
import BuildDispatch.Decimal.Rounded
import BuildDispatch.Decimal.Shortest
import BuildDispatch.Dispatch
import BuildDispatch.Environment
import BuildDispatch.Failure
import BuildDispatch.Host
import BuildDispatch.Host.Arithmetic
import BuildDispatch.Host.Condition
import BuildDispatch.Host.Edit
import BuildDispatch.Host.Edit.Reader
import BuildDispatch.Host.Escapes
import BuildDispatch.Host.Fields
import BuildDispatch.Host.Files
import BuildDispatch.Host.Format
import BuildDispatch.Host.Pattern
import BuildDispatch.Host.Programs
import BuildDispatch.Host.Programs.Basic
import BuildDispatch.Host.Programs.Carrying
import BuildDispatch.Host.Programs.Columns
import BuildDispatch.Host.Programs.Comparing
import BuildDispatch.Host.Programs.Deciding
import BuildDispatch.Host.Programs.Deferring
import BuildDispatch.Host.Programs.Dumping
import BuildDispatch.Host.Programs.Editing
import BuildDispatch.Host.Programs.Expression
import BuildDispatch.Host.Programs.Formatting
import BuildDispatch.Host.Programs.Gathering
import BuildDispatch.Host.Programs.Lines
import BuildDispatch.Host.Programs.Listing
import BuildDispatch.Host.Programs.Packing
import BuildDispatch.Host.Programs.Printing
import BuildDispatch.Host.Programs.Replacing
import BuildDispatch.Host.Programs.Reporting
import BuildDispatch.Host.Programs.Searching
import BuildDispatch.Host.Programs.Setting
import BuildDispatch.Host.Programs.Sorting
import BuildDispatch.Host.Programs.Storage
import BuildDispatch.Host.Programs.Surroundings
import BuildDispatch.Host.Programs.Unwritten
import BuildDispatch.Host.Programs.Walking
import BuildDispatch.Host.Quoting
import BuildDispatch.Host.Regex
import BuildDispatch.Host.Regex.Reader
import BuildDispatch.Host.Report
import BuildDispatch.Host.Report.Reader
import BuildDispatch.Host.Report.Token
import BuildDispatch.Host.Report.Value
import BuildDispatch.Host.Script
import BuildDispatch.Host.Script.Reader
import BuildDispatch.Host.Search
import BuildDispatch.Host.Shell
import BuildDispatch.Host.Shell.Builtins
import BuildDispatch.Host.Shell.Options
import BuildDispatch.Host.Shell.Running
import BuildDispatch.Host.Trimming
import BuildDispatch.Host.Variables
import BuildDispatch.Main
import BuildDispatch.OsError
import BuildDispatch.Policy
import BuildDispatch.Preset
import BuildDispatch.Proofs.Bytes.Ascii
import BuildDispatch.Proofs.Bytes.Utf8
import BuildDispatch.Proofs.Command.Interleaving
import BuildDispatch.Proofs.Command.Overridden
import BuildDispatch.Proofs.Command.QuotedWords
import BuildDispatch.Proofs.Command.ReadBack
import BuildDispatch.Proofs.CommandLine.Decomposition
import BuildDispatch.Proofs.CommandLine.HelpAsked
import BuildDispatch.Proofs.CommandLine.Layout
import BuildDispatch.Proofs.CommandLine.Options
import BuildDispatch.Proofs.Config.Decoding
import BuildDispatch.Proofs.Config.FirstViolation
import BuildDispatch.Proofs.Config.KeyOrder
import BuildDispatch.Proofs.Config.Parse
import BuildDispatch.Proofs.Config.Positional
import BuildDispatch.Proofs.Config.RoundTrip
import BuildDispatch.Proofs.Config.SameReading
import BuildDispatch.Proofs.Config.Validity
import BuildDispatch.Proofs.Dispatch.ChildArguments
import BuildDispatch.Proofs.Dispatch.ChildEnvironment
import BuildDispatch.Proofs.Dispatch.ChildStatus
import BuildDispatch.Proofs.Dispatch.DryRun
import BuildDispatch.Proofs.Dispatch.Ending
import BuildDispatch.Proofs.Dispatch.Plan
import BuildDispatch.Proofs.Dispatch.Precedence
import BuildDispatch.Proofs.Dispatch.Presets
import BuildDispatch.Proofs.Dispatch.ReadBack
import BuildDispatch.Proofs.Dispatch.Stages
import BuildDispatch.Proofs.Dispatch.Verbatim
import BuildDispatch.Proofs.Dispatch.Verbosity
import BuildDispatch.Proofs.Environment.Block
import BuildDispatch.Proofs.Environment.Merge
import BuildDispatch.Proofs.Environment.Repeated
import BuildDispatch.Proofs.Host.Runs
import BuildDispatch.Proofs.Policy.History
import BuildDispatch.Proofs.Results
import BuildDispatch.Proofs.SortedMap.Insertions
import BuildDispatch.Proofs.Toml.DistinctKeys
import BuildDispatch.Proofs.Toml.Document
import BuildDispatch.Proofs.Toml.Tree
import BuildDispatch.Proofs.Toml.Values
import BuildDispatch.Proofs.WaitStatus.Wording
import BuildDispatch.Request
import BuildDispatch.SortedMap
import BuildDispatch.Text.Extending
import BuildDispatch.Text.Likeness
import BuildDispatch.Text.Printable
import BuildDispatch.Text.Quoted
import BuildDispatch.Text.Ranges
import BuildDispatch.Text.Styled
import BuildDispatch.Text.Terminal
import BuildDispatch.Toml.DateTime
import BuildDispatch.Toml.DateTime.Reader
import BuildDispatch.Toml.Document
import BuildDispatch.Toml.KeyPath
import BuildDispatch.Toml.Number
import BuildDispatch.Toml.QuotedText
import BuildDispatch.Toml.QuotedText.Spelling
import BuildDispatch.Toml.Reader
import BuildDispatch.Toml.Tree
import BuildDispatch.Toml.Value
import BuildDispatch.Toml.Value.Reader
import BuildDispatch.WaitStatus
