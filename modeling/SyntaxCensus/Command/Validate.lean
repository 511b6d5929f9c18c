import SyntaxCensus.Command.Analyze

/-!
# The validation and version commands

A saved report is valid if it can be loaded and its totals are the sum of its
compiled entries.  Its figures are printed as soon as it is loaded.

Main definitions:

- `Validate.run`: load a report and check its totals.
- `Version.print`: the versions of the program and of its reports.
-/

namespace SyntaxCensus
namespace Validate

/-- Print the names of failed files. -/
def printFailed {σ ε : Type} : List FileResult → Action σ ε Unit
  | [] => return
  | .failed file _ :: rest => do
      Action.printLine s!"    - {file}"
      printFailed rest
  | .compiled _ _ :: rest => printFailed rest

/-- Print the figures of a report. -/
def printFigures {σ ε : Type} (report : Report) : Action σ ε Unit := do
  Action.printLine "✓ Valid report JSON"
  Action.printLine s!"  Compiled files: {report.compiledCount}"
  Action.printLine s!"  Failed files: {report.failedCount}"
  printFailed report.files
  Action.printLine s!"  Node kinds: {report.totals.size}"
  Action.printLine s!"  Total nodes: {report.totals.total}"

/-- Load the report at a path and check its totals. -/
def run (path : String) : Action FileSystem CommandError Unit := do
  Action.printLine s!"Validating report: {path}"
  let report ← (Report.openFrom path).mapError .unloaded
  printFigures report
  if report.isConsistent then
    Action.printLine "✓ Totals consistent"
  else
    throw .inconsistent

end Validate

namespace Version

/-- Print the versions of the program and of its reports. -/
def print {σ ε : Type} : Action σ ε Unit := do
  Action.printLine s!"Sol Node Stats v{programVersion}"
  Action.printLine s!"Report Schema: v{reportVersion}"
  Action.printLine ""
  Action.printLine "Syntax-tree node kind statistics for Solidity source corpora."

end Version
end SyntaxCensus
