import Mathlib.Data.List.Forall2
import SyntaxCensus.Corpus
import SyntaxCensus.Proofs.Toolchain.Fallback

/-!
# What a run over a corpus gives and does

The files are taken in order.  A file is read, and its source is given to the
compilers; the first file for which one of the two fails ends the run, and
nothing after it is read or compiled.

Main definitions:

- `Corpus.analysis`: what analyzing a source gives, with its calls.
- `Corpus.Gives`, `Corpus.StopsAt`: a file can be read and analyzed, or a run
  ends with an error at it.
- `Corpus.stepsFor`: the reading of a file and the calls for it.

Main results:

- `Corpus.leaves_analyzeFile`, `Corpus.leaves_analyzeFiles`: what one file and
  what all of them give and leave.
- `Corpus.gives_or_stops`: all files succeed, or there is a first one that does
  not.
- `Corpus.run_outcome`: the report or the error of a run, with all that was read
  and called.
-/

namespace SyntaxCensus
namespace Corpus

variable {ρ : Type} (source : String → Except ρ String)
  (reply : Toolchain → String → Except CompilerError String)

/-! ## One file -/

/-- What analyzing a source gives, and the calls for it. -/
def analysis (file text : String) : Except CompilerError FileResult × List Call :=
  let alone := ((Trace.compilers reply).analyze file text).effect ⟨[], #[]⟩
  (alone.1, Trace.calls alone.2)

/-- A file can be read and analyzed, with a result. -/
def Gives (file : String) (result : FileResult) : Prop :=
  ∃ text, source file = .ok text ∧ (analysis reply file text).1 = .ok result

/-- The calls for a file, none if it cannot be read. -/
def callsFor (file : String) : List Call :=
  match source file with
  | .error _ => []
  | .ok text => (analysis reply file text).2

/-- The reading of a file and the calls for it. -/
def stepsFor (file : String) : Trace :=
  .read file :: Trace.ofCalls (callsFor source reply file)

/-- A file cannot be read, or one of its compilers fails, which is called last:
the error that a run ends with. -/
inductive StopsAt (file : String) : CorpusError ρ → Prop
  | unread {cause : ρ} (failed : source file = .error cause) :
      StopsAt file (.unread file cause)
  | uncompiled {text : String} {cause : CompilerError} {earlier : List Call} {call : Call}
      (read : source file = .ok text)
      (failed : analysis reply file text = (.error cause, earlier ++ [call]))
      (last : reply call.toolchain call.input = .error cause) :
      StopsAt file (.uncompiled file cause)

/-- The outcome for one file. -/
def fileOutcome (file : String) : Except (CorpusError ρ) FileResult :=
  match source file with
  | .error cause => .error (.unread file cause)
  | .ok text => (analysis reply file text).1.mapError (.uncompiled file)

/-- For two toolchains the outcome of a file is the one with fallback. -/
theorem analysis_eq_fallback (file text : String) :
    analysis reply file text = Compilers.fallback reply file text Toolchain.priority := by
  have h := Compilers.leaves_analyzeBy reply file text Toolchain.priority ⟨[], #[]⟩
  simp only [analysis, Compilers.analyze, h, List.nil_append, Trace.calls_ofCalls]

/-- Analyzing a source gives and leaves the same after any other steps. -/
theorem leaves_analyze (file text : String) :
    Trace.Leaves ((Trace.compilers reply).analyze file text) (analysis reply file text).1
      (Trace.ofCalls (analysis reply file text).2) := by
  rw [analysis_eq_fallback]
  exact Compilers.leaves_analyzeBy reply file text Toolchain.priority

/-- One file gives its outcome and leaves its steps. -/
theorem leaves_analyzeFile (file : String) :
    Trace.Leaves (analyzeFile (Trace.reading source) (Trace.compilers reply) file)
      (fileOutcome source reply file) (stepsFor source reply file) := by
  have hread := (Trace.leaves_reading source file).mapError (CorpusError.unread file)
  unfold fileOutcome stepsFor callsFor
  refine .log_bind _ _ _ ?_
  cases hsource : source file with
  | error cause =>
      rw [hsource] at hread
      exact hread.bind_error
  | ok text =>
      rw [hsource] at hread
      exact hread.bind_ok ((leaves_analyze reply file text).mapError (CorpusError.uncompiled file))

section Results

variable {source reply} {file text : String} {result : FileResult}

/-- The outcome of a file follows from its source and the replies. -/
theorem fileOutcome_of_gives (h : Gives source reply file result) :
    fileOutcome source reply file = .ok result := by
  obtain ⟨text, hsource, hresult⟩ := h
  simp only [fileOutcome, hsource, hresult]
  rfl

/-- The result for a file carries the name of the file. -/
theorem file_of_gives (h : Gives source reply file result) : result.file = file := by
  obtain ⟨text, _, hresult⟩ := h
  rw [analysis_eq_fallback] at hresult
  exact Compilers.file_of_fallback hresult

/-- A compiler that fails is the last one that is called for a file. -/
theorem analysis_of_error {cause : CompilerError}
    (h : (analysis reply file text).1 = .error cause) :
    ∃ earlier call, analysis reply file text = (.error cause, earlier ++ [call]) ∧
      reply call.toolchain call.input = .error cause := by
  rw [analysis_eq_fallback] at h ⊢
  obtain ⟨earlier, call, hcalls, hlast⟩ := Compilers.last_call_of_fallback h
  exact ⟨earlier, call, Prod.ext h hcalls, hlast⟩

/-- A file without a result cannot be read, or one of its compilers fails. -/
theorem stopsAt_of_not_gives (h : ∀ result, ¬ Gives source reply file result) :
    ∃ error, fileOutcome source reply file = .error error ∧ StopsAt source reply file error := by
  unfold fileOutcome
  cases hsource : source file with
  | error cause => exact ⟨_, rfl, .unread hsource⟩
  | ok text =>
      cases hanalysis : (analysis reply file text).1 with
      | ok result => exact absurd ⟨text, hsource, hanalysis⟩ (h result)
      | error cause =>
          obtain ⟨earlier, call, hcalls, hlast⟩ := analysis_of_error hanalysis
          refine ⟨.uncompiled file cause, ?_, .uncompiled hsource hcalls hlast⟩
          simp only [hanalysis]
          rfl

/-- The first message of an error tells what failed for which file. -/
theorem StopsAt.chain_head {error : CorpusError ρ} (h : StopsAt source reply file error)
    (causes : ρ → List String) :
    (error.chain causes).head? = some
      (if (source file).isOk then "Failed to run compiler for " ++ file
        else "Failed to read source " ++ file) := by
  cases h with
  | unread failed => simp [CorpusError.chain, failed, Except.isOk, Except.toBool]
  | uncompiled read failed last => simp [CorpusError.chain, read, Except.isOk, Except.toBool]

end Results

/-! ## All files -/

/-- The outcomes for files in order, up to the first error, and the steps that
were taken. -/
def filesOutcome : List String → Except (CorpusError ρ) (List FileResult) × Trace
  | [] => (.ok [], [])
  | file :: rest =>
      match fileOutcome source reply file with
      | .error reason => (.error reason, stepsFor source reply file)
      | .ok result =>
          ((filesOutcome rest).1.map (result :: ·),
            stepsFor source reply file ++ (filesOutcome rest).2)

/-- The files give their outcomes, and after an error no step is taken. -/
theorem leaves_analyzeFiles (files : List String) :
    Trace.Leaves (analyzeFiles (Trace.reading source) (Trace.compilers reply) files)
      (filesOutcome source reply files).1 (filesOutcome source reply files).2 := by
  induction files with
  | nil => exact Trace.leaves_pure []
  | cons file rest ih =>
      have hfile := leaves_analyzeFile source reply file
      unfold filesOutcome analyzeFiles
      cases houtcome : fileOutcome source reply file with
      | error reason =>
          rw [houtcome] at hfile
          exact hfile.bind_error
      | ok result =>
          rw [houtcome] at hfile
          refine hfile.bind_ok ?_
          cases hrest : (filesOutcome source reply rest).1 with
          | error reason =>
              rw [hrest] at ih
              exact ih.bind_error
          | ok results =>
              rw [hrest] at ih
              exact ih.bind_silent (Trace.leaves_pure _)

/-- The files in the steps for some files are these files. -/
theorem reads_stepsFor (files : List String) :
    Trace.reads (files.flatMap (stepsFor source reply)) = files := by
  induction files with
  | nil => rfl
  | cons file rest ih => simp [stepsFor, ih]

/-- The calls in the steps for some files are the calls for these files. -/
theorem calls_stepsFor (files : List String) :
    Trace.calls (files.flatMap (stepsFor source reply)) =
      files.flatMap (callsFor source reply) := by
  induction files with
  | nil => rfl
  | cons file rest ih => simp [stepsFor, ih]

section Results

variable {source reply}

/-- Files that all have results succeed. -/
theorem filesOutcome_of_gives {files : List String} {results : List FileResult}
    (h : List.Forall₂ (Gives source reply) files results) :
    filesOutcome source reply files = (.ok results, files.flatMap (stepsFor source reply)) := by
  induction h with
  | nil => rfl
  | cons hfile _ ih =>
      simp only [filesOutcome, fileOutcome_of_gives hfile, ih]
      rfl

/-- The first file without a result ends the files. -/
theorem filesOutcome_of_error {before after : List String} {file : String}
    {reason : CorpusError ρ}
    (hbefore : ∀ earlier ∈ before, ∃ result, Gives source reply earlier result)
    (hfile : fileOutcome source reply file = .error reason) :
    filesOutcome source reply (before ++ file :: after) =
      (.error reason, (before ++ [file]).flatMap (stepsFor source reply)) := by
  induction before with
  | nil => simp [filesOutcome, hfile]
  | cons first rest ih =>
      obtain ⟨result, hresult⟩ := hbefore first List.mem_cons_self
      have hrest := ih fun earlier hearlier => hbefore earlier (List.mem_cons_of_mem _ hearlier)
      simp [filesOutcome, fileOutcome_of_gives hresult, hrest, Except.map]

/-- Of files with results every one has a result. -/
theorem forall_gives {files : List String} {results : List FileResult}
    (h : List.Forall₂ (Gives source reply) files results) :
    ∀ file ∈ files, ∃ result, Gives source reply file result := by
  induction h with
  | nil => simp
  | cons hfile _ ih =>
      intro other hother
      rcases List.mem_cons.mp hother with rfl | hother
      · exact ⟨_, hfile⟩
      · exact ih other hother

end Results

/-- Either every file has a result, or there is a first one that has none. -/
theorem gives_or_stops (files : List String) :
    (∃ results, List.Forall₂ (Gives source reply) files results) ∨
      ∃ before file after, files = before ++ file :: after ∧
        (∀ earlier ∈ before, ∃ result, Gives source reply earlier result) ∧
        ∀ result, ¬ Gives source reply file result := by
  induction files with
  | nil => exact .inl ⟨[], .nil⟩
  | cons file rest ih =>
      by_cases hfile : ∃ result, Gives source reply file result
      · obtain ⟨result, hresult⟩ := hfile
        rcases ih with ⟨results, hresults⟩ | ⟨before, stop, after, rfl, hbefore, hstop⟩
        · exact .inl ⟨result :: results, .cons hresult hresults⟩
        · refine .inr ⟨file :: before, stop, after, rfl, fun earlier hearlier => ?_, hstop⟩
          rcases List.mem_cons.mp hearlier with rfl | hearlier
          · exact ⟨result, hresult⟩
          · exact hbefore earlier hearlier
      · exact .inr ⟨[], file, rest, rfl, by simp, not_exists.mp hfile⟩

/-! ## The whole run -/

/-- Totals are told and take no step. -/
theorem leaves_totals {ε : Type} (results : List FileResult) :
    Trace.Leaves (totals results : Action Trace ε Histogram) (.ok (totalOf results)) [] :=
  .log_bind _ _ _ (Trace.leaves_pure _)

/-- A run gives the report of its files, with their total, or the error that
ended them. -/
theorem leaves_run (files : List String) :
    Trace.Leaves (run (Trace.reading source) (Trace.compilers reply) files)
      ((filesOutcome source reply files).1.map Report.ofResults)
      (filesOutcome source reply files).2 := by
  have hfiles := leaves_analyzeFiles source reply files
  unfold run
  cases houtcome : (filesOutcome source reply files).1 with
  | error reason =>
      rw [houtcome] at hfiles
      exact hfiles.bind_error
  | ok results =>
      rw [houtcome] at hfiles
      refine hfiles.bind_silent ?_
      refine (leaves_totals results).bind_silent ?_
      exact Trace.leaves_pure (Report.ofResults results)

/-- A run gives a report exactly if every file can be read and analyzed.  The
report has the result of each file in order and their totals; each file was read
and its calls were made in that order.  Else the run ends with the error of the
first file that fails, after the steps for this file and those before it; if a
compiler failed, its call is the last one. -/
theorem run_outcome (causes : ρ → List String) (files : List String) (session : Session Trace) :
    ∃ (outcome : Except (CorpusError ρ) Report) (steps : Trace),
      (run (Trace.reading source) (Trace.compilers reply) files).effect session =
          (outcome, session.state ++ steps) ∧
        ((∃ report, outcome = .ok report) ↔
          ∀ file ∈ files, ∃ result, Gives source reply file result) ∧
        (∀ report, outcome = .ok report →
          List.Forall₂ (fun file result => Gives source reply file result ∧ result.file = file)
              files report.files ∧
            report.totals = totalOf report.files ∧ report.isConsistent = true ∧
            steps = files.flatMap (stepsFor source reply) ∧ Trace.reads steps = files ∧
            Trace.calls steps = files.flatMap (callsFor source reply)) ∧
        ∀ error, outcome = .error error →
          ∃ before file after, files = before ++ file :: after ∧
            (∀ earlier ∈ before, ∃ result, Gives source reply earlier result) ∧
            steps = (before ++ [file]).flatMap (stepsFor source reply) ∧
            Trace.reads steps = before ++ [file] ∧
            Trace.calls steps = (before ++ [file]).flatMap (callsFor source reply) ∧
            StopsAt source reply file error ∧
            (error.chain causes).head? = some
              (if (source file).isOk then "Failed to run compiler for " ++ file
                else "Failed to read source " ++ file) := by
  refine ⟨_, _, leaves_run source reply files session, ?_⟩
  rcases gives_or_stops source reply files with
    ⟨results, hresults⟩ | ⟨before, file, after, rfl, hbefore, hstop⟩
  · rw [filesOutcome_of_gives hresults]
    refine ⟨⟨fun _ => forall_gives hresults, fun _ => ⟨_, rfl⟩⟩, ?_, nofun⟩
    rintro report hreport
    obtain rfl := Except.ok.inj hreport
    refine ⟨hresults.imp fun file result hresult => ?_, rfl, decide_eq_true rfl, rfl,
      reads_stepsFor source reply files, calls_stepsFor source reply files⟩
    exact ⟨hresult, file_of_gives hresult⟩
  · have hnot : ¬ ∀ other ∈ before ++ file :: after, ∃ result, Gives source reply other result := by
      intro hall
      obtain ⟨result, hresult⟩ := hall file (by simp)
      exact hstop result hresult
    obtain ⟨error, hfile, hstops⟩ := stopsAt_of_not_gives hstop
    rw [filesOutcome_of_error hbefore hfile]
    refine ⟨⟨fun h => absurd h (by simp [Except.map]), fun h => absurd h hnot⟩, nofun, ?_⟩
    rintro error' herror
    obtain rfl := Except.error.inj herror
    exact ⟨before, file, after, rfl, hbefore, rfl, reads_stepsFor source reply _,
      calls_stepsFor source reply _, hstops, hstops.chain_head causes⟩

end Corpus
end SyntaxCensus
