import ReleasePilot.Changelog.MergeLog
import ReleasePilot.Changelog.Reference
import ReleasePilot.Changelog.Section
import ReleasePilot.Command.Quoting
import ReleasePilot.CommandLine
import ReleasePilot.Config.Basic
import ReleasePilot.Config.Load
import ReleasePilot.Declaration
import ReleasePilot.Error
import ReleasePilot.Host
import ReleasePilot.Main
import ReleasePilot.Operator
import ReleasePilot.Options
import ReleasePilot.Program.Basic
import ReleasePilot.Program.Complaint
import ReleasePilot.Program.Condition
import ReleasePilot.Program.CountedTesting
import ReleasePilot.Program.Counting
import ReleasePilot.Program.Cutting
import ReleasePilot.Program.Editing
import ReleasePilot.Program.Excerpt
import ReleasePilot.Program.Format
import ReleasePilot.Program.Fraction
import ReleasePilot.Program.Insertion
import ReleasePilot.Program.Pattern
import ReleasePilot.Program.Preparation
import ReleasePilot.Program.Printing
import ReleasePilot.Program.Quantity
import ReleasePilot.Program.Reading
import ReleasePilot.Program.Sorting
import ReleasePilot.Program.Testing
import ReleasePilot.Program.Transliteration
import ReleasePilot.Program.Usage
import ReleasePilot.Program.Utility
import ReleasePilot.Proofs.Changelog.Bullets
import ReleasePilot.Proofs.Changelog.LineEndings
import ReleasePilot.Proofs.Changelog.MergeLog
import ReleasePilot.Proofs.Changelog.NewestFirst
import ReleasePilot.Proofs.Changelog.Placement
import ReleasePilot.Proofs.Changelog.References
import ReleasePilot.Proofs.Changelog.Shortening
import ReleasePilot.Proofs.Changelog.UniqueHeaders
import ReleasePilot.Proofs.Command.Echo
import ReleasePilot.Proofs.Command.Words
import ReleasePilot.Proofs.Declaration.Agreement
import ReleasePilot.Proofs.Declaration.Repetition
import ReleasePilot.Proofs.Declaration.Replacement
import ReleasePilot.Proofs.Publication.Sequence
import ReleasePilot.Proofs.Session.AllOrNothing
import ReleasePilot.Proofs.Session.Console
import ReleasePilot.Proofs.Session.Diagnostics
import ReleasePilot.Proofs.Session.DryRunOutput
import ReleasePilot.Proofs.Session.Pairing
import ReleasePilot.Proofs.Session.Rehearsal
import ReleasePilot.Proofs.Session.StandIn
import ReleasePilot.Proofs.Text.Encoding
import ReleasePilot.Proofs.Text.Spelling
import ReleasePilot.Proofs.Version.Acceptance
import ReleasePilot.Proofs.Version.CanonicalForm
import ReleasePilot.Proofs.Version.Derivability
import ReleasePilot.Proofs.Version.Grammar
import ReleasePilot.Proofs.Version.LabelOrder
import ReleasePilot.Proofs.Version.Labels
import ReleasePilot.Proofs.Version.Naming
import ReleasePilot.Proofs.Version.Recognition
import ReleasePilot.Proofs.Version.ReferenceKey
import ReleasePilot.Proofs.Version.Successor
import ReleasePilot.Proofs.Version.TotalOrder
import ReleasePilot.Proofs.Workflow.Chaining
import ReleasePilot.Proofs.Workflow.Completion
import ReleasePilot.Proofs.Workflow.Consent
import ReleasePilot.Proofs.Workflow.Diagnostics
import ReleasePilot.Proofs.Workflow.DryRun
import ReleasePilot.Proofs.Workflow.Failure
import ReleasePilot.Proofs.Workflow.Lockstep
import ReleasePilot.Proofs.Workflow.Output
import ReleasePilot.Proofs.Workflow.Rehearsal
import ReleasePilot.Proofs.Workflow.StandIn
import ReleasePilot.Proofs.Workflow.UniqueTags
import ReleasePilot.Proofs.Workflow.VersionPrompt
import ReleasePilot.Publication
import ReleasePilot.Runner
import ReleasePilot.Script.Arithmetic
import ReleasePilot.Script.Basic
import ReleasePilot.Script.Binding
import ReleasePilot.Script.Builtin
import ReleasePilot.Script.Connection
import ReleasePilot.Script.Evaluation
import ReleasePilot.Script.Field
import ReleasePilot.Script.Input
import ReleasePilot.Script.Invocation
import ReleasePilot.Script.Machine
import ReleasePilot.Script.PathPattern
import ReleasePilot.Script.Reader
import ReleasePilot.Script.Scanner
import ReleasePilot.Script.Shell
import ReleasePilot.Script.Signal
import ReleasePilot.Script.Word
import ReleasePilot.Session
import ReleasePilot.Text.Blank
import ReleasePilot.Text.DecimalDigit
import ReleasePilot.Text.Folding
import ReleasePilot.Text.Integer
import ReleasePilot.Text.Line
import ReleasePilot.Text.Numeral
import ReleasePilot.Text.Raw
import ReleasePilot.Text.Split
import ReleasePilot.Text.Utf8
import ReleasePilot.Toml.Quoted
import ReleasePilot.Toml.Reader
import ReleasePilot.Toml.Scalar
import ReleasePilot.Toml.Table
import ReleasePilot.Toml.Value
import ReleasePilot.Transcript
import ReleasePilot.Tree.Basic
import ReleasePilot.Tree.Edit
import ReleasePilot.Tree.Path
import ReleasePilot.Tree.Replace
import ReleasePilot.Version.Basic
import ReleasePilot.Version.Order
import ReleasePilot.Version.Written
import ReleasePilot.Workflow
