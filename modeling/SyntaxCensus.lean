import SyntaxCensus.Command.Analyze
import SyntaxCensus.Command.Options
import SyntaxCensus.Command.Program
import SyntaxCensus.Command.Validate
import SyntaxCensus.Corpus
import SyntaxCensus.Decimal.Double
import SyntaxCensus.Decimal.Notation
import SyntaxCensus.Decimal.Shortest
import SyntaxCensus.Files.Fault
import SyntaxCensus.Files.Operations
import SyntaxCensus.Files.Path
import SyntaxCensus.Files.Sources
import SyntaxCensus.Files.Tree
import SyntaxCensus.Files.Walk
import SyntaxCensus.Histogram.Basic
import SyntaxCensus.Histogram.Counting
import SyntaxCensus.Histogram.Reader
import SyntaxCensus.Host.Decimal.Arithmetic
import SyntaxCensus.Host.Decimal.Functions
import SyntaxCensus.Host.Decimal.Ratio
import SyntaxCensus.Host.Installation
import SyntaxCensus.Host.Launch
import SyntaxCensus.Host.Process.Changes
import SyntaxCensus.Host.Process.Conditions
import SyntaxCensus.Host.Process.Counted
import SyntaxCensus.Host.Process.Running
import SyntaxCensus.Host.Process.Starting
import SyntaxCensus.Host.Shell.Braces
import SyntaxCensus.Host.Shell.Builtin.Basic
import SyntaxCensus.Host.Shell.Builtin.Control
import SyntaxCensus.Host.Shell.Builtin.Declaring
import SyntaxCensus.Host.Shell.Builtin.Printing
import SyntaxCensus.Host.Shell.Builtin.Reading
import SyntaxCensus.Host.Shell.Builtin.Testing
import SyntaxCensus.Host.Shell.Builtin.Variables
import SyntaxCensus.Host.Shell.Calculation
import SyntaxCensus.Host.Shell.Commands
import SyntaxCensus.Host.Shell.Elements
import SyntaxCensus.Host.Shell.Evaluation
import SyntaxCensus.Host.Shell.Expansion
import SyntaxCensus.Host.Shell.Fields
import SyntaxCensus.Host.Shell.FileNames
import SyntaxCensus.Host.Shell.Invocation
import SyntaxCensus.Host.Shell.Reader
import SyntaxCensus.Host.Shell.Redirecting
import SyntaxCensus.Host.Shell.Run
import SyntaxCensus.Host.Shell.Source
import SyntaxCensus.Host.Shell.State
import SyntaxCensus.Host.Shell.Syntax
import SyntaxCensus.Host.Shell.Words
import SyntaxCensus.Host.Text.Escapes
import SyntaxCensus.Host.Text.Format
import SyntaxCensus.Host.Text.Narrow
import SyntaxCensus.Host.Text.Numeral
import SyntaxCensus.Host.Text.Pattern
import SyntaxCensus.Host.Text.Posix
import SyntaxCensus.Host.Text.Printing
import SyntaxCensus.Host.Tools.Arguments
import SyntaxCensus.Host.Tools.Basic
import SyntaxCensus.Host.Tools.Blocks
import SyntaxCensus.Host.Tools.Calculating
import SyntaxCensus.Host.Tools.Calendar
import SyntaxCensus.Host.Tools.Columns
import SyntaxCensus.Host.Tools.Comparing
import SyntaxCensus.Host.Tools.Copying
import SyntaxCensus.Host.Tools.Digests
import SyntaxCensus.Host.Tools.Editing.Cycle
import SyntaxCensus.Host.Tools.Editing.Invocation
import SyntaxCensus.Host.Tools.Editing.Reader
import SyntaxCensus.Host.Tools.Editing.Script
import SyntaxCensus.Host.Tools.Entries
import SyntaxCensus.Host.Tools.Environment
import SyntaxCensus.Host.Tools.Listing
import SyntaxCensus.Host.Tools.Moving
import SyntaxCensus.Host.Tools.Names
import SyntaxCensus.Host.Tools.Octets
import SyntaxCensus.Host.Tools.Options
import SyntaxCensus.Host.Tools.Ordering
import SyntaxCensus.Host.Tools.Paths
import SyntaxCensus.Host.Tools.Printing
import SyntaxCensus.Host.Tools.Records.Cell
import SyntaxCensus.Host.Tools.Records.Evaluation
import SyntaxCensus.Host.Tools.Records.Invocation
import SyntaxCensus.Host.Tools.Records.Machine
import SyntaxCensus.Host.Tools.Records.Matching
import SyntaxCensus.Host.Tools.Records.Program
import SyntaxCensus.Host.Tools.Records.Reader
import SyntaxCensus.Host.Tools.Records.Table
import SyntaxCensus.Host.Tools.Records.Token
import SyntaxCensus.Host.Tools.Searching
import SyntaxCensus.Host.Tools.Seeking
import SyntaxCensus.Host.Tools.Testing
import SyntaxCensus.Journal.Action
import SyntaxCensus.Journal.Filter
import SyntaxCensus.Journal.Record
import SyntaxCensus.Json.Error
import SyntaxCensus.Json.Mismatch
import SyntaxCensus.Json.Printer
import SyntaxCensus.Json.Reader
import SyntaxCensus.Json.Scanner
import SyntaxCensus.Json.Value
import SyntaxCensus.Keyed
import SyntaxCensus.Main
import SyntaxCensus.Process.Basic
import SyntaxCensus.Process.Compiling
import SyntaxCensus.Proofs.Bindings
import SyntaxCensus.Proofs.Command.Saving
import SyntaxCensus.Proofs.Command.Silence
import SyntaxCensus.Proofs.Command.StandardOutput
import SyntaxCensus.Proofs.Command.Validation
import SyntaxCensus.Proofs.Corpus
import SyntaxCensus.Proofs.Corpus.Agreement
import SyntaxCensus.Proofs.Corpus.Composition
import SyntaxCensus.Proofs.Corpus.Failures
import SyntaxCensus.Proofs.Corpus.Figures
import SyntaxCensus.Proofs.Corpus.Steps
import SyntaxCensus.Proofs.Files.Growth
import SyntaxCensus.Proofs.Files.Listing
import SyntaxCensus.Proofs.Files.Selection
import SyntaxCensus.Proofs.Files.Writing
import SyntaxCensus.Proofs.Histogram.Counts
import SyntaxCensus.Proofs.Histogram.Documents
import SyntaxCensus.Proofs.Histogram.Occurrences
import SyntaxCensus.Proofs.Histogram.Ranking
import SyntaxCensus.Proofs.Histogram.Readers
import SyntaxCensus.Proofs.Histogram.Registers
import SyntaxCensus.Proofs.Histogram.Sums
import SyntaxCensus.Proofs.Histogram.Variations
import SyntaxCensus.Proofs.Histogram.Visits
import SyntaxCensus.Proofs.Journal.Agreement
import SyntaxCensus.Proofs.Journal.Changes
import SyntaxCensus.Proofs.Journal.Effect
import SyntaxCensus.Proofs.Journal.Output
import SyntaxCensus.Proofs.Json.Continuation
import SyntaxCensus.Proofs.Json.Drafts
import SyntaxCensus.Proofs.Json.Injectivity
import SyntaxCensus.Proofs.Json.Layout
import SyntaxCensus.Proofs.Json.Nesting
import SyntaxCensus.Proofs.Json.Numbers
import SyntaxCensus.Proofs.Json.Quotation
import SyntaxCensus.Proofs.Json.ReadBack
import SyntaxCensus.Proofs.Json.Reading
import SyntaxCensus.Proofs.Json.Rendering
import SyntaxCensus.Proofs.Json.Strings
import SyntaxCensus.Proofs.Json.Unbounded
import SyntaxCensus.Proofs.Json.Wrapping
import SyntaxCensus.Proofs.Report.Canonical
import SyntaxCensus.Proofs.Report.Depth
import SyntaxCensus.Proofs.Report.Documents
import SyntaxCensus.Proofs.Report.Forests
import SyntaxCensus.Proofs.Report.Frame
import SyntaxCensus.Proofs.Report.Loaders
import SyntaxCensus.Proofs.Report.Normalisation
import SyntaxCensus.Proofs.Report.Refusals
import SyntaxCensus.Proofs.Report.RoundTrip
import SyntaxCensus.Proofs.Report.Totals
import SyntaxCensus.Proofs.Text.Decoding
import SyntaxCensus.Proofs.Text.Order
import SyntaxCensus.Proofs.Text.Utf8
import SyntaxCensus.Proofs.Toolchain.Fallback
import SyntaxCensus.Proofs.Toolchain.Programs
import SyntaxCensus.Proofs.Toolchain.Recording
import SyntaxCensus.Proofs.Toolchain.Requests
import SyntaxCensus.Proofs.Toolchain.Transparency
import SyntaxCensus.Regex.CharacterSet
import SyntaxCensus.Regex.Expression
import SyntaxCensus.Regex.Matching
import SyntaxCensus.Regex.Notation.Fault
import SyntaxCensus.Regex.Notation.Meaning
import SyntaxCensus.Regex.Notation.Reader
import SyntaxCensus.Regex.Notation.Term
import SyntaxCensus.Report.Basic
import SyntaxCensus.Report.Error
import SyntaxCensus.Report.Ranking
import SyntaxCensus.Report.Store
import SyntaxCensus.Report.Summary
import SyntaxCensus.Text.Lines
import SyntaxCensus.Text.Octet
import SyntaxCensus.Text.Quoted
import SyntaxCensus.Text.Utf8
import SyntaxCensus.Toolchain.Analysis
import SyntaxCensus.Toolchain.Basic
