import SyntaxCensus.Command.Analyze
import SyntaxCensus.Process.Compiling
import SyntaxCensus.Proofs.Corpus.Steps
import SyntaxCensus.Proofs.Journal.Output

/-!
# What an analysis does not print

Standard output is for the report alone.  Listing and reading sources, running
compilers, saving the report and showing a summary tell what they do in the log
and on the diagnostic output only.

Main definitions:

- `Compilers.Silent`: compilers that print nothing themselves.

Main results:

- `Compilers.silent_ofPrograms`: compilers that are programs print nothing.
- `Analyze.compositional_gather`: the steps that come to a report.
- `Analyze.silent_gather`, `Analyze.silent_saveIfAsked`,
  `Analyze.prints_printSummary`: nor do the steps before and after the report is
  printed.
-/

namespace SyntaxCensus

variable {σ ε : Type}

/-! ## Compilers -/

/-- Compilers that print nothing, whatever they are asked. -/
structure Compilers.Silent (compilers : Compilers σ) : Prop where
  current : ∀ input, Action.Silent (compilers.current input)
  legacy : ∀ input, Action.Silent (compilers.legacy input)

/-- What is told about a program that ran goes to the log. -/
theorem Finished.silent_tell (finished : Finished) (program : String) :
    Action.Silent (finished.tell program : Action σ CompilerError Unit) := by
  unfold Finished.tell
  split
  · split
    · exact .log_bind _ _ _ (Action.silent_log _ _ _)
    · exact Action.silent_log _ _ _
  · split
    · exact .log_bind _ _ _ (Action.silent_pure ())
    · exact Action.silent_pure ()

/-- What a program writes is an answer and is not printed. -/
theorem Compiler.silent_ofProgram (launch : Launcher σ) (program : String)
    (arguments : List String) (input : String) :
    Action.Silent (Compiler.ofProgram launch program arguments input) := by
  refine .log_bind _ _ _ ?_
  refine (Action.silent_onState _).bind fun finished => ?_
  refine (finished.silent_tell program).bind fun _ => ?_
  exact Action.silent_pure (Utf8.decodeLossy finished.output)

namespace Compilers

theorem silent_ofPrograms (launch : Launcher σ) (current legacy : String)
    (arguments : List String) : (ofPrograms launch current legacy arguments).Silent where
  current input := Compiler.silent_ofProgram launch current arguments input
  legacy input := Compiler.silent_ofProgram launch legacy [] input

/-- Whichever toolchain is asked, nothing is printed. -/
theorem Silent.of {compilers : Compilers σ} (h : compilers.Silent) (toolchain : Toolchain)
    (input : String) : Action.Silent (compilers.of toolchain input) := by
  cases toolchain with
  | current => exact h.current input
  | legacy => exact h.legacy input

end Compilers

/-! ## Sources -/

namespace Sources

/-- Files that are skipped are told in the log. -/
theorem silent_select (fs : FileSystem) (directory : String) (filter : Option String)
    (names : List String) : Action.Silent (select fs directory filter names) := by
  induction names with
  | nil => exact Action.silent_pure []
  | cons name rest ih =>
      unfold select
      dsimp only
      split
      · split
        · exact ih.bind fun selected => Action.silent_pure (name :: selected)
        · exact .log_bind _ _ _ ih
      · exact ih

/-- What cannot be listed is an error, and is not printed here. -/
theorem silent_list (directory : String) (filter : Option String) :
    Action.Silent (list directory filter) := by
  refine Action.silent_get.bind fun session => ?_
  dsimp only
  cases session.state.list directory with
  | error cause => exact Action.silent_throw _
  | ok names =>
      have hselect := silent_select session.state directory filter names
      exact hselect.bind fun _ => Action.silent_pure _

theorem silent_read (directory name : String) : Action.Silent (read directory name) := by
  refine Action.silent_get.bind fun session => ?_
  dsimp only
  cases session.state.readFile (Path.join directory name) with
  | error cause => exact Action.silent_throw _
  | ok octets =>
      dsimp only
      cases Utf8.decode? octets with
      | none => exact Action.silent_throw _
      | some text => exact Action.silent_pure text

end Sources

/-! ## Saving -/

namespace Report

/-- Directories that are created are told in the log. -/
theorem silent_prepareParent (path : String) : Action.Silent (prepareParent path) := by
  refine Action.silent_get.bind fun session => ?_
  dsimp only
  cases Path.parent? path with
  | none => exact Action.silent_pure ()
  | some parent =>
      dsimp only
      split
      · exact Action.silent_pure ()
      · exact .log_bind _ _ _ (Action.silent_onState _)

/-- Saving tells in the log where it writes, and how much. -/
theorem silent_save (report : Report) (path : String) : Action.Silent (report.save path) := by
  refine .log_bind _ _ _ ?_
  refine Action.silent_get.bind fun session => ?_
  cases pathFault? session.state path with
  | some fault => exact Action.silent_throw _
  | none =>
      refine (silent_prepareParent path).bind fun _ => ?_
      refine (Action.silent_onState _).bind fun _ => ?_
      refine Action.silent_get.bind fun written => ?_
      exact Action.silent_log _ _ _

end Report

/-! ## The command -/

namespace Analyze

section Summary

variable {state : σ}

theorem prints_top (histogram : Histogram) (limit : Nat) :
    Action.Prints state (Corpus.top histogram limit : Action σ ε (List KindShare))
      (histogram.top limit) [] :=
  .log_bind _ _ _ (Action.prints_pure _)

/-- Rows are lines of the diagnostic output. -/
theorem prints_printRows (rank : Nat) (shares : List KindShare) :
    Action.Prints state (printRows rank shares : Action σ ε Unit) () [] := by
  induction shares generalizing rank with
  | nil => exact Action.prints_pure ()
  | cons share rest ih => exact .diagnostic_bind _ (ih (rank + 1))

/-- A summary is always shown, and is not part of standard output. -/
theorem prints_printSummary (report : Report) (limit : Nat) :
    Action.Prints state (printSummary report limit : Action σ ε Unit) () [] := by
  -- five lines come before the rows, and one after them
  iterate 5 refine .diagnostic_bind _ ?_
  refine (prints_top report.totals limit).silent_bind ?_
  exact (prints_printRows 1 _).silent_bind (Action.prints_diagnosticLine rule)

end Summary

/-- A report that is asked for is saved without printing. -/
theorem silent_saveIfAsked (s : Settings) (report : Report) :
    Action.Silent (saveIfAsked s report) := by
  unfold saveIfAsked
  cases s.output with
  | none => exact Action.silent_pure ()
  | some path =>
      have hsave := (report.silent_save path).mapError CommandError.unsaved
      exact hsave.bind fun _ => Action.silent_log _ _ _

/-- Gathering lists sources and runs over them, and logs what it does. -/
theorem compositional_gather
    {R : ∀ {ε ε' α : Type}, Action FileSystem ε α → Action FileSystem ε' α → Prop}
    (hsteps : Action.Compositional R) (compilers others : Compilers FileSystem)
    (hcalls : ∀ toolchain input, R (compilers.of toolchain input) (others.of toolchain input))
    (s : Settings)
    (hlist : R (Sources.list s.directory s.extension) (Sources.list s.directory s.extension))
    (hread : ∀ file, R (Sources.read s.directory file) (Sources.read s.directory file)) :
    R (gather compilers s) (gather others s) := by
  refine hsteps.log_bind _ _ _ ?_
  refine hsteps.log_bind _ _ _ ?_
  refine hsteps.bind (hsteps.mapError hlist _ _) fun files => ?_
  refine hsteps.log_bind _ _ _ ?_
  refine hsteps.log_bind _ _ _ ?_
  have hrun := Corpus.compositional_run hsteps compilers others hcalls _ _
    fun file (_ : file ∈ files) => hread file
  refine hsteps.bind (hsteps.mapError hrun _ _) fun report => ?_
  exact hsteps.log_bind _ _ _ (hsteps.pure report)

/-- Nothing is printed before the whole report is there. -/
theorem silent_gather {compilers : Compilers FileSystem} (h : compilers.Silent) (s : Settings) :
    Action.Silent (gather compilers s) :=
  compositional_gather Action.compositional_silent compilers compilers h.of s
    (Sources.silent_list s.directory s.extension) (Sources.silent_read s.directory)

end Analyze
end SyntaxCensus
