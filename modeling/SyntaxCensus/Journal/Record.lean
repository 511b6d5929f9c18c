import SyntaxCensus.Text.Lines

/-!
# Journal

What a command tells while it runs: log records, and text on the two outputs.
All of it is kept in one sequence, so the order between records and text is
known.

Main definitions:

- `Record`: a log record, with the part of the program it comes from.
- `Event`: a record or a text that was printed.
- `Journal.standardOutput`: the text printed on standard output.
-/

namespace SyntaxCensus

/-- How important a record is. -/
inductive Severity where
  | error
  | warning
  | info
  | debug
  | trace
  deriving DecidableEq, Repr

namespace Severity

/-- The word that begins the line of a record. -/
def label : Severity → String
  | .error => "ERROR"
  | .warning => "WARN"
  | .info => "INFO"
  | .debug => "DEBUG"
  | .trace => "TRACE"

/-- More important records have a lower rank. -/
def rank : Severity → Nat
  | .error => 1
  | .warning => 2
  | .info => 3
  | .debug => 4
  | .trace => 5

end Severity

/-- The part of the program that a record comes from. -/
inductive Component where
  | corpus
  | totals
  | ranking
  | analysis
  | process
  | reportFile
  deriving DecidableEq, Repr

/-- The target by which a filter selects the records of a component. -/
def Component.target : Component → String
  | .corpus => "sol_node_stats::commands::analyze"
  | .totals => "sol_node_stats::aggregator::totals"
  | .ranking => "sol_node_stats::aggregator::metrics"
  | .analysis => "sol_node_stats::compiler::analyzer"
  | .process => "sol_node_stats::compiler::solc"
  | .reportFile => "sol_node_stats::output::json"

/-- A log record. -/
structure Record where
  severity : Severity
  component : Component
  message : String
  deriving DecidableEq, Repr

/-- The line of a record without the time and the target. -/
def Record.line (r : Record) : String :=
  r.severity.label ++ " " ++ r.message

/-- The lines of a record on the diagnostic output.  The lines of a message
after its first are set in. -/
def Record.block (r : Record) : String :=
  r.severity.label ++ " " ++ Text.setIn 4 r.message ++ "\n"

/-- Something that a command told. -/
inductive Event where
  | log (record : Record)
  | output (text : String)
  | diagnostic (text : String)
  deriving DecidableEq, Repr

/-- Everything told so far, the first event first. -/
abbrev Journal := Array Event

namespace Journal

/-- The records of a journal. -/
def records (journal : Journal) : List Record :=
  journal.toList.filterMap fun
    | .log record => some record
    | _ => none

/-- The text printed on standard output. -/
def standardOutput (journal : Journal) : String :=
  String.join (journal.toList.filterMap fun
    | .output text => some text
    | _ => none)

/-- The text on the diagnostic output: what was printed there, and the lines
of the records that `shown` selects. -/
def diagnosticOutput (shown : Record → Bool) (journal : Journal) : String :=
  String.join (journal.toList.filterMap fun
    | .diagnostic text => some text
    | .log record => if shown record then some record.block else none
    | .output _ => none)

end Journal
end SyntaxCensus
