import SyntaxCensus.Report.Ranking
import SyntaxCensus.Toolchain.Analysis

/-!
# Analysis of a corpus

The files of a corpus are read and analyzed one after the other, and the
totals are taken at the end.  The first file that cannot be read, or whose
compiler cannot be run, ends the run.

Main definitions:

- `Corpus.run`: the report of a list of files.
- `Corpus.totals`, `Corpus.top`: totals and ranking, told in the journal.
-/

namespace SyntaxCensus

/-- Why a run over a corpus ended early. -/
inductive CorpusError (ρ : Type) where
  | unread (file : String) (cause : ρ)
  | uncompiled (file : String) (cause : CompilerError)
  deriving DecidableEq, Repr

/-- What an error says, the outermost message first. -/
def CorpusError.chain {ρ : Type} (causes : ρ → List String) : CorpusError ρ → List String
  | .unread file cause => ("Failed to read source " ++ file) :: causes cause
  | .uncompiled file cause =>
      ["Failed to run compiler for " ++ file, cause.message, cause.cause.message]

namespace Corpus

variable {σ ρ ε : Type}

/-- The sum over all compiled files. -/
def totals (results : List FileResult) : Action σ ε Histogram := do
  let sum := totalOf results
  Action.log .debug .totals
    s!"Aggregated {results.length} results into {sum.size} kinds ({sum.total} nodes)"
  return sum

/-- The first kinds of the ranking. -/
def top (histogram : Histogram) (limit : Nat) : Action σ ε (List KindShare) := do
  Action.log .debug .ranking s!"Ranking top {limit} of {histogram.size} node kinds"
  return histogram.top limit

/-- The outcome for one file that has yet to be read. -/
def analyzeFile (read : String → Action σ ρ String) (compilers : Compilers σ) (file : String) :
    Action σ (CorpusError ρ) FileResult := do
  Action.log .debug .corpus s!"Analyzing {file}"
  let source ← (read file).mapError (CorpusError.unread file)
  (compilers.analyze file source).mapError (CorpusError.uncompiled file)

/-- The outcomes for files in order, up to the first error. -/
def analyzeFiles (read : String → Action σ ρ String) (compilers : Compilers σ) :
    List String → Action σ (CorpusError ρ) (List FileResult)
  | [] => return []
  | file :: rest => do
      let result ← analyzeFile read compilers file
      let results ← analyzeFiles read compilers rest
      return result :: results

/-- The report of a list of files. -/
def run (read : String → Action σ ρ String) (compilers : Compilers σ) (files : List String) :
    Action σ (CorpusError ρ) Report := do
  let results ← analyzeFiles read compilers files
  let sum ← totals results
  return ⟨results, sum⟩

end Corpus
end SyntaxCensus
