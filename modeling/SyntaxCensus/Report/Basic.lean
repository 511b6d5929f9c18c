import SyntaxCensus.Histogram.Basic

/-!
# Corpus reports

A report has one entry for each source file, compiled with its histogram or
failed with a reason, and the totals of the corpus.  As a document it is an
array of the entries with the totals last; a failed entry is an object with
the file name as its only key and the reason as its value.

Main definitions:

- `Report.toJson` and `Report.ofJson`: a report as a document.
- `Report.isConsistent`: the totals are the sum of the compiled entries.
-/

namespace SyntaxCensus

/-- The outcome for one source file. -/
inductive FileResult where
  | compiled (file : String) (histogram : Histogram)
  | failed (file : String) (reason : String)
  deriving DecidableEq

namespace FileResult

/-- The name of the file. -/
def file : FileResult → String
  | .compiled file _ => file
  | .failed file _ => file

/-- The histogram of a compiled file. -/
def histogram? : FileResult → Option Histogram
  | .compiled _ histogram => some histogram
  | .failed _ _ => none

/-- The file could not be compiled. -/
def isFailed : FileResult → Bool
  | .compiled _ _ => false
  | .failed _ _ => true

/-- The entry of a file in a document. -/
def toJson : FileResult → Json
  | .compiled _ histogram => histogram.toJson
  | .failed file reason => .object [(file, .string reason)]

/-- The file and reason of an entry that stands for a failure: an object with
one key, whose value is a text. -/
def failure? : Json → Option (String × String)
  | .object [(file, .string reason)] => some (file, reason)
  | _ => none

/-- The outcome that an entry stands for; the entry of a compiled file does
not tell its name. -/
def ofJson (entry : Json) : Except Mismatch FileResult :=
  match failure? entry with
  | some (file, reason) => .ok (.failed file reason)
  | none => (Histogram.ofJson entry).map (.compiled "")

end FileResult

/-- The outcomes for all files of a corpus, and the totals. -/
structure Report where
  files : List FileResult
  totals : Histogram
  deriving DecidableEq

/-- Why a document is not a report. -/
inductive ReportFault where
  | notArray
  | noTotals
  | badTotals (reason : Mismatch)
  | badEntry (index : Nat) (reason : Mismatch)
  deriving DecidableEq, Repr

/-- The text of a fault. -/
def ReportFault.message : ReportFault → String
  | .notArray => "Report must be a JSON array"
  | .noTotals => "Report has no totals entry"
  | .badTotals reason => "Last entry is not a totals map: " ++ reason.message
  | .badEntry index reason =>
      "Entry " ++ toString index ++ " is not a statistics map: " ++ reason.message

/-- The sum of the histograms of all compiled files. -/
def totalOf (results : List FileResult) : Histogram :=
  Histogram.sum (results.filterMap FileResult.histogram?)

namespace Report

/-- The report of outcomes, with their total. -/
def ofResults (results : List FileResult) : Report where
  files := results
  totals := totalOf results

/-- How many files were compiled. -/
def compiledCount (report : Report) : Nat :=
  report.files.countP fun result => !result.isFailed

/-- How many files failed. -/
def failedCount (report : Report) : Nat :=
  report.files.countP FileResult.isFailed

/-- The totals are the sum of the compiled entries. -/
def isConsistent (report : Report) : Bool :=
  decide (totalOf report.files = report.totals)

/-- The document of a report. -/
def toJson (report : Report) : Json :=
  .array (report.files.map FileResult.toJson ++ [report.totals.toJson])

/-- The outcomes that entries stand for, the first of which has a given index,
up to the first one that stands for none. -/
def filesOf (index : Nat) : List Json → Except ReportFault (List FileResult)
  | [] => .ok []
  | entry :: rest =>
      match FileResult.ofJson entry with
      | .error reason => .error (.badEntry index reason)
      | .ok file =>
          match filesOf (index + 1) rest with
          | .error fault => .error fault
          | .ok files => .ok (file :: files)

/-- The report of the entries of a document: the last one holds the totals and
is looked at first. -/
def ofEntries (entries : List Json) : Except ReportFault Report :=
  match entries.getLast? with
  | none => .error .noTotals
  | some last =>
      match Histogram.ofJson last with
      | .error reason => .error (.badTotals reason)
      | .ok totals =>
          match filesOf 0 entries.dropLast with
          | .error fault => .error fault
          | .ok files => .ok ⟨files, totals⟩

/-- The report of a document. -/
def ofJson : Json → Except ReportFault Report
  | .array entries => ofEntries entries
  | _ => .error .notArray

/-- The text of a report, one item or member to a line. -/
def text (report : Report) : String :=
  report.toJson.indented

end Report
end SyntaxCensus
