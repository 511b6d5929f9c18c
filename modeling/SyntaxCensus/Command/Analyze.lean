import SyntaxCensus.Corpus
import SyntaxCensus.Files.Sources
import SyntaxCensus.Report.Store
import SyntaxCensus.Report.Summary

/-!
# The analysis command

The settings are checked, the sources listed, the corpus run, and the report
printed.  It is saved and summed up if the settings ask for it.  Nothing is
printed before the whole report is there.

Main definitions:

- `Settings`: what an analysis is asked to do, with the values that hold where
  nothing else is asked for.
- `Settings.check`: whether settings can be worked with.
- `Analyze.run`: the whole command.
-/

namespace SyntaxCensus

/-! ## Settings -/

/-- The version of the program. -/
def programVersion : String := "0.1.0"

/-- The version of the layout of reports. -/
def reportVersion : String := "1.0.0"

/-- The largest number of kinds that a summary lists. -/
def maxTopKinds : Nat := 1000

/-- The arguments that a current compiler is started with. -/
def currentArguments : List String := ["--standard-json"]

/-- The settings of one analysis. -/
structure Settings where
  /-- The directory that holds the sources. -/
  directory : String := "contracts"
  /-- Only files with this extension are sources; all files if none is set. -/
  extension : Option String := some "sol"
  /-- Where the report is saved as well. -/
  output : Option String := none
  /-- Print the summary. -/
  summary : Bool := false
  /-- How many kinds the summary lists. -/
  top : Nat := 20
  /-- The program of the current toolchain. -/
  current : String := "solc"
  /-- The program of the legacy toolchain. -/
  legacy : String := "solc-legacy"
  deriving DecidableEq, Repr

/-- Why settings cannot be worked with. -/
inductive SettingsFault where
  | noDirectory
  | directoryMissing (directory : String)
  | noExtension
  | noProgram
  | topZero
  | topTooLarge
  deriving DecidableEq, Repr

/-- The text of a fault. -/
def SettingsFault.message : SettingsFault → String
  | .noDirectory => "Source directory cannot be empty"
  | .directoryMissing directory => "Source directory not found: " ++ directory
  | .noExtension => "Extension filter cannot be empty"
  | .noProgram => "Compiler program cannot be empty"
  | .topZero => "top must be greater than 0"
  | .topTooLarge => s!"top is too large (max {maxTopKinds})"

/-- The first fault of settings, if they have one. -/
def Settings.fault? (s : Settings) (fs : FileSystem) : Option SettingsFault :=
  if s.directory.isEmpty then some .noDirectory
  else if !fs.isDirectory s.directory then some (.directoryMissing s.directory)
  else if s.extension = some "" then some .noExtension
  else if s.current.isEmpty || s.legacy.isEmpty then some .noProgram
  else if s.top = 0 then some .topZero
  else if maxTopKinds < s.top then some .topTooLarge
  else none

/-- Why a command failed. -/
inductive CommandError where
  | badSettings (reason : SettingsFault)
  | sources (cause : SourceError)
  | corpus (cause : CorpusError SourceError)
  | unsaved (cause : ReportError)
  | unloaded (cause : ReportError)
  | inconsistent
  deriving DecidableEq, Repr

/-- What an error says, the outermost message first. -/
def CommandError.chain : CommandError → List String
  | .badSettings reason => [reason.message]
  | .sources cause => cause.chain
  | .corpus cause => cause.chain SourceError.chain
  | .unsaved cause => "Failed to write report JSON" :: cause.chain
  | .unloaded cause => cause.chain
  | .inconsistent => ["Totals entry does not match the sum of per-file entries"]

/-- Check settings against the files. -/
def Settings.check (s : Settings) : Action FileSystem CommandError Unit := do
  match s.fault? (← get).state with
  | some reason => throw (.badSettings reason)
  | none => return

/-! ## The command -/

namespace Analyze

/-- Blanks before a text, up to a width. -/
def padStart (width : Nat) (text : String) : String :=
  String.ofList (List.replicate (width - text.length) ' ') ++ text

/-- Blanks after a text, up to a width. -/
def padEnd (width : Nat) (text : String) : String :=
  text ++ String.ofList (List.replicate (width - text.length) ' ')

/-- The line between the parts of a summary. -/
def rule : String := String.ofList (List.replicate 80 '=')

/-- The row of a kind in a summary. -/
def row (rank : Nat) (share : KindShare) : String :=
  padStart 4 (toString rank) ++ ". " ++ padEnd 40 share.kind ++ " " ++
    padStart 10 (toString share.count) ++ " (" ++ share.percentage.textOnePlace ++ "%)"

/-- The rows of kinds, the first of which has a given rank. -/
def printRows {σ ε : Type} (rank : Nat) : List KindShare → Action σ ε Unit
  | [] => return
  | share :: rest => do
      Action.diagnosticLine (row rank share)
      printRows (rank + 1) rest

/-- Print the summary of a report. -/
def printSummary {σ ε : Type} (report : Report) (limit : Nat) : Action σ ε Unit := do
  Action.diagnosticLine ("\n" ++ rule)
  Action.diagnosticLine "NODE KIND SUMMARY"
  Action.diagnosticLine rule
  Action.diagnosticLine (Summary.ofReport report).line
  Action.diagnosticLine ""
  printRows 1 (← Corpus.top report.totals limit)
  Action.diagnosticLine rule

/-- The report of the sources that the settings select. -/
def gather (compilers : Compilers FileSystem) (s : Settings) :
    Action FileSystem CommandError Report := do
  Action.log .info .corpus s!"Starting analysis of: {s.directory}"
  Action.log .info .corpus "Step 1/3: Listing source files..."
  let files ← (Sources.list s.directory s.extension).mapError .sources
  Action.log .info .corpus s!"Found {files.length} source files"
  Action.log .info .corpus "Step 2/3: Compiling and counting..."
  let report ← (Corpus.run (Sources.read s.directory) compilers files).mapError .corpus
  Action.log .info .corpus s!"Corpus: {(Summary.ofReport report).line}"
  return report

/-- Save the report if the settings ask for it. -/
def saveIfAsked (s : Settings) (report : Report) : Action FileSystem CommandError Unit := do
  match s.output with
  | none => return
  | some path => do
      (report.save path).mapError .unsaved
      Action.log .info .corpus s!"✓ Report written to: {path}"

/-- Analyze with settings that were checked.  `seconds` tells how long that
takes. -/
def execute (compilers : Compilers FileSystem) (s : Settings) (seconds : String) :
    Action FileSystem CommandError Unit := do
  let report ← gather compilers s
  Action.log .info .corpus "Step 3/3: Writing report..."
  Action.printLine report.text
  saveIfAsked s report
  if s.summary then
    printSummary report s.top
  Action.log .info .corpus s!"Analysis completed in {seconds}s"

/-- The whole command. -/
def run (compilers : Compilers FileSystem) (s : Settings) (seconds : String) :
    Action FileSystem CommandError Unit := do
  s.check
  execute compilers s seconds

end Analyze
end SyntaxCensus
