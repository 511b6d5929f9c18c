import SyntaxCensus.Files.Fault
import SyntaxCensus.Journal.Action
import SyntaxCensus.Json.Error
import SyntaxCensus.Report.Basic

/-!
# Errors of saved reports

Why a report could not be saved or loaded.

Main definitions:

- `ReportError.message` and `ReportError.chain`: what an error says.
- `Report.load`: the report of a document, told in the journal.
-/

namespace SyntaxCensus

/-- Why a path cannot take a report. -/
inductive PathFault where
  | empty
  | directory (path : String)
  | parentMissing (parent : String) (cause : SystemFault)
  deriving DecidableEq, Repr

/-- The text of a fault. -/
def PathFault.message : PathFault → String
  | .empty => "Path is empty"
  | .directory path => "Path is a directory: " ++ path
  | .parentMissing parent cause =>
      "Cannot create directory " ++ parent ++ ": " ++ cause.message

/-- Why a report could not be saved or loaded: the file could not be opened,
its octets could not be fetched or are no document, the path is unfit, or the
document is no report. -/
inductive ReportError where
  | unopened (cause : SystemFault)
  | unfetched (cause : SystemFault)
  | undecoded (reason : ReadError)
  | badPath (reason : PathFault)
  | badReport (reason : ReportFault)
  deriving DecidableEq, Repr

namespace ReportError

/-- The text of an error. -/
def message : ReportError → String
  | .unopened cause => "Failed to write file: " ++ cause.message
  | .unfetched cause => "Failed to serialize JSON: " ++ cause.message
  | .undecoded reason => "Failed to serialize JSON: " ++ reason.message
  | .badPath reason => "Invalid output path: " ++ reason.message
  | .badReport reason => "Invalid report: " ++ reason.message

/-- What an error says, followed by its cause if that is an error of its
own. -/
def chain (e : ReportError) : List String :=
  match e with
  | .unopened cause | .unfetched cause => [e.message, cause.message]
  | .undecoded reason => [e.message, reason.message]
  | .badPath _ | .badReport _ => [e.message]

end ReportError

/-- The report of a document. -/
def Report.load {σ : Type} (document : Json) : Action σ ReportError Report :=
  match Report.ofJson document with
  | .error reason => throw (.badReport reason)
  | .ok report => do
      Action.log .debug .reportFile
        (s!"Report loaded: {report.compiledCount} compiled, {report.failedCount} failed, " ++
          s!"{report.totals.size} kinds")
      return report

end SyntaxCensus
