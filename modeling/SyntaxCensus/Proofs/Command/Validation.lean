import Mathlib.Algebra.GroupWithZero.Nat
import SyntaxCensus.Command.Validate
import SyntaxCensus.Proofs.Journal.Output
import SyntaxCensus.Proofs.Report.Documents
import SyntaxCensus.Proofs.Report.RoundTrip

/-!
# What validation accepts

Validation reads the report in a file, prints its figures and checks its totals.
It succeeds for exactly those files that hold an array of counts and failures
with the sums of the counts at its end.

Main definitions:

- `Report.stored`: the report in the file that a path leads to.
- `Validate.transcript`: the lines that validating a report prints.

Main results:

- `Validate.prints_run`: a stored report with right totals is validated.
- `Validate.run_succeeds_iff`: the files that are validated, by their JSON.
-/

namespace SyntaxCensus

/-! ## Reading a report -/

namespace Report

/-- The report in the file that a path leads to. -/
def stored (fs : FileSystem) (path : String) : Except ReportError Report :=
  (fetch fs path).bind fun document => (ofJson document).mapError .badReport

/-- A report is in a file if it is that of the file's JSON. -/
theorem stored_eq_ok_iff {fs : FileSystem} {path : String} {report : Report} :
    stored fs path = .ok report ↔
      ∃ octets document, fs.openPath path = .ok (.content octets) ∧
        Json.parseFile octets = .ok document ∧ ofJson document = .ok report := by
  unfold stored fetch
  cases hopen : fs.openPath path with
  | error cause => simp [Except.bind]
  | ok opened =>
      cases opened with
      | directory => simp [Except.bind]
      | content octets =>
          cases hparse : Json.parseFile octets with
          | error reason => simp [Except.bind, Except.mapError, hparse]
          | ok document =>
              cases hread : ofJson document <;>
                simp [Except.bind, Except.mapError, hparse, hread]

/-- Loading tells how much it has loaded in the log. -/
theorem silent_load {σ : Type} (document : Json) :
    Action.Silent (load document : Action σ ReportError Report) := by
  unfold load
  cases ofJson document with
  | error reason => exact Action.silent_throw _
  | ok report => exact .log_bind _ _ _ (Action.silent_pure report)

/-- Reading a report tells in the log what it reads. -/
theorem silent_openFrom (path : String) : Action.Silent (openFrom path) := by
  refine .log_bind _ _ _ ?_
  refine Action.silent_get.bind fun session => ?_
  exact (Action.silent_ofExcept (fetch session.state path)).bind silent_load

/-- A stored report is read without printing anything. -/
theorem prints_openFrom {fs : FileSystem} {path : String} {report : Report}
    (h : stored fs path = .ok report) : Action.Prints fs (openFrom path) report [] := by
  refine (silent_openFrom path).prints fun journal => ?_
  rw [hasEffect_openFrom path ⟨fs, journal⟩]
  exact congrArg (·, fs) h

/-- The names of the files that failed, in order. -/
def failedFiles (report : Report) : List String :=
  (report.files.filter (·.isFailed)).map (·.file)

end Report

namespace Validate

/-! ## What is printed -/

/-- The lines that show the figures of a report. -/
def figures (report : Report) : List String :=
  [s!"  Compiled files: {report.compiledCount}", s!"  Failed files: {report.failedCount}"] ++
    report.failedFiles.map (fun file => s!"    - {file}") ++
    [s!"  Node kinds: {report.totals.size}", s!"  Total nodes: {report.totals.total}"]

/-- The lines that validating a report prints. -/
def transcript (path : String) (report : Report) : List String :=
  [s!"Validating report: {path}", "✓ Valid report JSON"] ++ figures report ++
    ["✓ Totals consistent"]

section Printing

variable {σ ε : Type} {state : σ}

/-- Each file that failed has a line, in the order of the report. -/
theorem prints_printFailed (files : List FileResult) :
    Action.Prints state (printFailed files : Action σ ε Unit) ()
      (((files.filter (·.isFailed)).map (·.file)).map fun file => s!"    - {file}") := by
  induction files with
  | nil => exact Action.prints_pure ()
  | cons file rest ih =>
      cases file with
      | compiled name h => exact ih
      | failed name reason => exact .line_bind _ ih

/-- The figures are printed in their order, after the mark of a valid report. -/
theorem prints_printFigures (report : Report) :
    Action.Prints state (printFigures report : Action σ ε Unit) ()
      ("✓ Valid report JSON" :: figures report) := by
  have hlast : Action.Prints state
      (do
        Action.printLine s!"  Node kinds: {report.totals.size}"
        Action.printLine s!"  Total nodes: {report.totals.total}" : Action σ ε Unit) ()
      [s!"  Node kinds: {report.totals.size}", s!"  Total nodes: {report.totals.total}"] :=
    .line_bind _ (Action.prints_printLine _)
  refine .line_bind _ ?_
  refine .line_bind _ ?_
  refine .line_bind _ ?_
  exact (prints_printFailed report.files).bind hlast

end Printing

/-- Validating a stored report with right totals prints its transcript, and
changes no file. -/
theorem prints_run {fs : FileSystem} {path : String} {report : Report}
    (hstored : Report.stored fs path = .ok report) (hconsistent : report.isConsistent = true) :
    Action.Prints fs (run path) () (transcript path report) := by
  have hread := (Report.prints_openFrom hstored).mapError CommandError.unloaded
  have hverdict : Action.Prints fs
      (if report.isConsistent then Action.printLine "✓ Totals consistent"
        else throw CommandError.inconsistent : Action FileSystem CommandError Unit) ()
      ["✓ Totals consistent"] := by
    rw [if_pos hconsistent]
    exact Action.prints_printLine _
  exact .line_bind _ (hread.bind ((prints_printFigures report).bind hverdict))

/-! ## When validation succeeds -/

/-- A validation that succeeds found a report with right totals. -/
theorem stored_of_run_eq_ok {path : String} {session last : Session FileSystem}
    (h : run path session = .ok () last) :
    ∃ report, Report.stored session.state path = .ok report ∧ report.isConsistent = true := by
  obtain ⟨_, begun, hprint, h⟩ := Action.bind_eq_ok h
  obtain ⟨report, loaded, hread, h⟩ := Action.bind_eq_ok h
  obtain ⟨_, shown, _, h⟩ := Action.bind_eq_ok h
  have hstate : begun.state = session.state := by
    obtain rfl := (EStateM.Result.ok.inj hprint).2
    rfl
  refine ⟨report, ?_, ?_⟩
  · have heffect := Report.hasEffect_openFrom path begun
    rw [Action.effect_eq_ok_iff.mpr ⟨_, Action.ok_of_mapError_ok hread⟩, hstate] at heffect
    exact (Prod.mk.inj heffect).1.symm
  · by_contra hwrong
    rw [if_neg hwrong] at h
    cases h

/-- Validating a path succeeds exactly if it leads to a file of JSON that is an
array with at least one item, in which the last item is an object of whole
numbers of 64 bits without a sign; every other item is such an object too, or an
object with one key whose value is a text; and the last item has under every key
the sum of the numbers that the others have under it, where a missing key counts
as zero and the objects with a text do not count. -/
theorem run_succeeds_iff (path : String) (session : Session FileSystem) :
    (∃ last, run path session = .ok () last) ↔
      ∃ octets entries last, session.state.openPath path = .ok (.content octets) ∧
        Json.parseFile octets = .ok (.array (entries ++ [last])) ∧ last.IsStatistics ∧
        (∀ entry ∈ entries, entry.IsFailure ∨ entry.IsStatistics) ∧
        ∀ kind, last.countAt kind =
          ((entries.filter fun entry => ¬ entry.IsFailure).map (Json.countAt kind)).sum := by
  constructor
  · rintro ⟨last, hrun⟩
    obtain ⟨report, hstored, hconsistent⟩ := stored_of_run_eq_ok hrun
    obtain ⟨octets, document, hopen, hparse, hread⟩ := Report.stored_eq_ok_iff.mp hstored
    obtain ⟨entries, last, rfl, hforms⟩ :=
      (Report.exists_isConsistent_iff (Json.stored_of_parseFile hparse)).mp
        ⟨report, hread, hconsistent⟩
    exact ⟨octets, entries, last, hopen, hparse, hforms⟩
  · rintro ⟨octets, entries, last, hopen, hparse, hforms⟩
    obtain ⟨report, hread, hconsistent⟩ :=
      (Report.exists_isConsistent_iff (Json.stored_of_parseFile hparse)).mpr
        ⟨entries, last, rfl, hforms⟩
    have hstored : Report.stored session.state path = .ok report :=
      Report.stored_eq_ok_iff.mpr ⟨octets, _, hopen, hparse, hread⟩
    obtain ⟨done, hrun, _⟩ := (prints_run hstored hconsistent).run_eq
    exact ⟨done, hrun⟩

end Validate
end SyntaxCensus
