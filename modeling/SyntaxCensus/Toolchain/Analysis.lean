import SyntaxCensus.Files.Fault
import SyntaxCensus.Histogram.Counting
import SyntaxCensus.Journal.Action
import SyntaxCensus.Json.Reader
import SyntaxCensus.Report.Basic
import SyntaxCensus.Toolchain.Basic

/-!
# Analysis of one source file

The toolchains are tried in order until one answers a syntax tree, whose nodes
are counted.  An answer that is no document, or holds no tree for the file,
sends the file to the next toolchain; a compiler that cannot be run at all
ends the analysis with an error.

Main definitions:

- `Compiler`: a compiler as an action from input text to output text.
- `Compilers.analyze`: the outcome for one file.
-/

namespace SyntaxCensus

/-- Why a compiler could not be run. -/
inductive CompilerError where
  | notStarted (program : String) (cause : SystemFault)
  | interrupted (cause : SystemFault)
  deriving DecidableEq, Repr

namespace CompilerError

/-- The text of an error. -/
def message : CompilerError → String
  | .notStarted program cause =>
      "Failed to start compiler `" ++ program ++ "`: " ++ cause.message
  | .interrupted cause => "Compiler I/O failed: " ++ cause.message

/-- The fault behind an error. -/
def cause : CompilerError → SystemFault
  | .notStarted _ cause => cause
  | .interrupted cause => cause

end CompilerError

/-- A compiler: text goes in and text comes out.  An error means that it could
not be run; a source that does not compile is an output without a tree. -/
abbrev Compiler (σ : Type) := String → Action σ CompilerError String

/-- A compiler for each toolchain. -/
structure Compilers (σ : Type) where
  current : Compiler σ
  legacy : Compiler σ

namespace Compilers

variable {σ : Type}

/-- The compiler of a toolchain. -/
def of (compilers : Compilers σ) : Toolchain → Compiler σ
  | .current => compilers.current
  | .legacy => compilers.legacy

/-- The reason recorded for a file that no toolchain could compile. -/
def notCompiled : String := "not compiled"

/-- The histogram of a file by one toolchain, if that answers a tree. -/
def tryToolchain (compilers : Compilers σ) (toolchain : Toolchain) (file source : String) :
    Action σ CompilerError (Option Histogram) := do
  let answer ← compilers.of toolchain (toolchain.request file source)
  match Json.parse answer with
  | .error reason =>
      Action.log .warning .analysis
        (file ++ ": unreadable " ++ toolchain.name ++ " compiler output: " ++ reason.message)
      return none
  | .ok document =>
      return (toolchain.tree? file document).map (Histogram.ofTree toolchain.marker)

/-- The outcome for a file by the first of some toolchains that answers a
tree. -/
def analyzeBy (compilers : Compilers σ) (file source : String) :
    List Toolchain → Action σ CompilerError FileResult
  | [] => do
      Action.log .warning .analysis (file ++ ": " ++ notCompiled)
      return .failed file notCompiled
  | toolchain :: rest => do
      match ← compilers.tryToolchain toolchain file source with
      | some histogram =>
          Action.log .debug .analysis
            s!"{file}: {histogram.total} nodes, {histogram.size} kinds ({toolchain.name} toolchain)"
          return .compiled file histogram
      | none =>
          Action.log .debug .analysis
            s!"{file}: no syntax tree from {toolchain.name} toolchain"
          analyzeBy compilers file source rest

/-- The outcome for one source file. -/
def analyze (compilers : Compilers σ) (file source : String) :
    Action σ CompilerError FileResult :=
  compilers.analyzeBy file source Toolchain.priority

end Compilers
end SyntaxCensus
