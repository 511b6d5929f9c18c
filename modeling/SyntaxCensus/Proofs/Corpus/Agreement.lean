import SyntaxCensus.Proofs.Corpus.Steps
import SyntaxCensus.Proofs.Journal.Agreement

/-!
# Corpora side by side

Two runs over the same files agree if the reading of each file and the calls of
the compilers do, whatever relation of the two states these keep.

Main definitions:

- `Compilers.Agree`: compilers agree on every input.
- `Compilers.Stateless`: compilers whose answers depend on their inputs only.

Main results:

- `Compilers.Agree.analyzeBy`: the outcomes for one source agree.
- `Corpus.agree_run`: so do the reports of a corpus.
-/

namespace SyntaxCensus

variable {σ τ ρ ρ' : Type} {rel : σ → τ → Prop}

/-! ## One source -/

/-- From related states the compilers of each toolchain end alike on every
input. -/
def Compilers.Agree (rel : σ → τ → Prop) (compilers : Compilers σ) (others : Compilers τ) :
    Prop :=
  ∀ toolchain input,
    Action.Agree rel (compilers.of toolchain input) (others.of toolchain input)

/-- Compilers whose answers depend on their inputs only. -/
def Compilers.Stateless (compilers : Compilers σ) : Prop :=
  ∀ toolchain input, Action.Stateless (compilers.of toolchain input)

variable {compilers : Compilers σ} {others : Compilers τ}

/-- The outcomes for a source agree, whatever toolchains are tried. -/
theorem Compilers.Agree.analyzeBy (h : compilers.Agree rel others) (file source : String)
    (toolchains : List Toolchain) :
    Action.Agree rel (compilers.analyzeBy file source toolchains)
      (others.analyzeBy file source toolchains) :=
  compilers.compositional_analyzeBy Action.compositional_agree others h file source toolchains

/-! ## All files -/

namespace Corpus

variable {read : String → Action σ ρ String} {readOther : String → Action τ ρ' String}

/-- The outcomes for a file agree, if what is read there does. -/
theorem agree_analyzeFile {file : String} (hread : Action.Agree rel (read file) (readOther file))
    (hcompilers : compilers.Agree rel others) :
    Action.Agree rel (analyzeFile read compilers file) (analyzeFile readOther others file) :=
  compositional_analyzeFile Action.compositional_agree compilers others hcompilers read readOther
    hread

/-- So do the outcomes for several files. -/
theorem agree_analyzeFiles {files : List String}
    (hread : ∀ file ∈ files, Action.Agree rel (read file) (readOther file))
    (hcompilers : compilers.Agree rel others) :
    Action.Agree rel (analyzeFiles read compilers files) (analyzeFiles readOther others files) :=
  compositional_analyzeFiles Action.compositional_agree compilers others hcompilers read
    readOther hread

/-- The reports of a corpus agree. -/
theorem agree_run {files : List String}
    (hread : ∀ file ∈ files, Action.Agree rel (read file) (readOther file))
    (hcompilers : compilers.Agree rel others) :
    Action.Agree rel (run read compilers files) (run readOther others files) :=
  compositional_run Action.compositional_agree compilers others hcompilers read readOther hread

end Corpus
end SyntaxCensus
