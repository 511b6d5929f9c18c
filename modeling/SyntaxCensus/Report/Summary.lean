import SyntaxCensus.Report.Basic

/-!
# Summary figures

The figures of a report in one line.

Main definitions:

- `Summary.ofReport`: the figures of a report.
- `Summary.line`: the line that shows them.
-/

namespace SyntaxCensus

/-- The figures of a report. -/
structure Summary where
  files : Nat
  compiled : Nat
  failed : Nat
  kinds : Nat
  nodes : Nat
  deriving DecidableEq, Repr

namespace Summary

/-- The figures of a report; kinds and nodes are those of its totals. -/
def ofReport (report : Report) : Summary where
  files := report.files.length
  compiled := report.compiledCount
  failed := report.failedCount
  kinds := report.totals.size
  nodes := report.totals.total

/-- The nodes of a compiled file on average, rounded down; all nodes if no
file was compiled. -/
def meanNodes (s : Summary) : Nat :=
  s.nodes / max s.compiled 1

/-- The figures in one line. -/
def line (s : Summary) : String :=
  s!"Files: {s.files} | Compiled: {s.compiled} | Failed: {s.failed} | Kinds: {s.kinds}" ++
    s!" | Nodes: {s.nodes} | Mean/file: {s.meanNodes}"

end Summary
end SyntaxCensus
