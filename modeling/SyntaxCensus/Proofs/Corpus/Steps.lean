import SyntaxCensus.Corpus
import SyntaxCensus.Proofs.Journal.Effect

/-!
# The steps of a run

A run over a corpus reads files, calls compilers and logs what it does, and nothing
else.  A relation of actions that longer ones have from their steps holds of two runs
over the same files if it holds of the readings and of the calls.  So what single steps
print, change or have in common is carried to whole runs here, and only here.

Main results:

- `Compilers.compositional_analyze`: from calls to the outcome for a source.
- `Corpus.compositional_run`: from readings and calls to the report of a corpus.
-/

namespace SyntaxCensus

variable {σ τ ρ ρ' ε ε' : Type}
  {R : ∀ {ε ε' α : Type}, Action σ ε α → Action τ ε' α → Prop}
  (hsteps : Action.Compositional R) (compilers : Compilers σ) (others : Compilers τ)
  (hcalls : ∀ toolchain input, R (compilers.of toolchain input) (others.of toolchain input))

/-! ## One source -/

namespace Compilers

include hsteps hcalls

/-- One call is made for each toolchain that is tried. -/
theorem compositional_tryToolchain (toolchain : Toolchain) (file source : String) :
    R (compilers.tryToolchain toolchain file source)
      (others.tryToolchain toolchain file source) := by
  refine hsteps.bind (hcalls toolchain _) fun answer => ?_
  cases Json.parse answer with
  | error reason => exact hsteps.log_bind _ _ _ (hsteps.pure none)
  | ok document => exact hsteps.pure _

/-- Toolchains are tried one after the other, up to the first one with a tree. -/
theorem compositional_analyzeBy (file source : String) (toolchains : List Toolchain) :
    R (compilers.analyzeBy file source toolchains)
      (others.analyzeBy file source toolchains) := by
  induction toolchains with
  | nil => exact hsteps.log_bind _ _ _ (hsteps.pure _)
  | cons toolchain rest ih =>
      have htry := compositional_tryToolchain hsteps compilers others hcalls toolchain file source
      refine hsteps.bind htry fun found => ?_
      cases found with
      | none => exact hsteps.log_bind _ _ _ ih
      | some histogram => exact hsteps.log_bind _ _ _ (hsteps.pure _)

/-- The toolchains of an analysis are the two there are. -/
theorem compositional_analyze (file source : String) :
    R (compilers.analyze file source) (others.analyze file source) :=
  compositional_analyzeBy hsteps compilers others hcalls file source Toolchain.priority

end Compilers

/-! ## All files -/

namespace Corpus

variable (read : String → Action σ ρ String) (readOther : String → Action τ ρ' String)

include hsteps

/-- Totals are logged and given. -/
theorem compositional_totals (results : List FileResult) :
    R (totals results : Action σ ε Histogram) (totals results : Action τ ε' Histogram) :=
  hsteps.log_bind _ _ _ (hsteps.pure _)

include hcalls

/-- A file is read, and then its source is analyzed. -/
theorem compositional_analyzeFile {file : String} (hread : R (read file) (readOther file)) :
    R (analyzeFile read compilers file) (analyzeFile readOther others file) := by
  refine hsteps.log_bind _ _ _ ?_
  refine hsteps.bind (hsteps.mapError hread _ _) fun source => ?_
  have hanalyze := compilers.compositional_analyze hsteps others hcalls file source
  exact hsteps.mapError hanalyze _ _

/-- Files are analyzed one after the other. -/
theorem compositional_analyzeFiles {files : List String}
    (hread : ∀ file ∈ files, R (read file) (readOther file)) :
    R (analyzeFiles read compilers files) (analyzeFiles readOther others files) := by
  induction files with
  | nil => exact hsteps.pure []
  | cons file rest ih =>
      obtain ⟨hfile, hrest⟩ := List.forall_mem_cons.mp hread
      have hfirst :=
        compositional_analyzeFile hsteps compilers others hcalls read readOther hfile
      refine hsteps.bind hfirst fun result => ?_
      exact hsteps.bind (ih hrest) fun results => hsteps.pure (result :: results)

/-- The report is that of all files, with their totals. -/
theorem compositional_run {files : List String}
    (hread : ∀ file ∈ files, R (read file) (readOther file)) :
    R (run read compilers files) (run readOther others files) := by
  have hfiles :=
    compositional_analyzeFiles hsteps compilers others hcalls read readOther hread
  refine hsteps.bind hfiles fun results => ?_
  exact hsteps.bind (compositional_totals hsteps results) fun sum =>
    hsteps.pure (Report.mk results sum)

end Corpus
end SyntaxCensus
