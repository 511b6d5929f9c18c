import SyntaxCensus.Proofs.Command.Silence
import SyntaxCensus.Proofs.Command.Validation
import SyntaxCensus.Proofs.Report.Frame

/-!
# Saved reports are valid

An analysis prints its report and saves the same text.  The totals of the report
are the sums that validation asks for, so the file is valid, and validation
shows the figures of the report that the analysis had.

Main results:

- `Report.stored_of_openPath`: a file with the text of a report holds the report.
- `Validate.transcript_unnamed`: a report that was read back shows the same
  figures.
- `Validate.prints_run_ofResults`: the file of a new report is valid.
- `Analyze.exists_report_of_execute`: what an analysis prints and saves.
- `Analyze.saved_report_validates`: what an analysis prints, saves and can
  validate, with a run over two sources.
-/

namespace SyntaxCensus

/-! ## Counts that fit -/

/-- Counts fit if the count of every kind does. -/
theorem Histogram.countsFit_iff (h : Histogram) :
    h.CountsFit ↔ ∀ kind, h.get kind ≤ Number.maxWhole := by
  constructor
  · intro hfit kind
    by_cases hpos : 0 < h.get kind
    · obtain ⟨entry, hmem, rfl⟩ := List.mem_map.mp ((h.mem_map_entries_iff kind).mpr hpos)
      rw [h.get_of_mem hmem]
      exact hfit entry hmem
    · omega
  · intro hfit entry hmem
    rw [← h.get_of_mem hmem]
    exact hfit entry.1

/-- If the totals fit then so do the counts of every compiled file. -/
theorem Report.countsFit_ofResults {results : List FileResult}
    (h : (totalOf results).CountsFit) : (Report.ofResults results).CountsFit := by
  intro histogram hmem
  rcases List.mem_cons.mp hmem with rfl | hmem
  · exact h
  · rw [Histogram.countsFit_iff] at h ⊢
    exact fun kind => (get_le_totalOf hmem kind).trans (h kind)

/-! ## Reports that are read back -/

namespace Report

/-- The totals of a new report are right. -/
theorem isConsistent_ofResults (results : List FileResult) :
    (ofResults results).isConsistent = true :=
  decide_eq_true rfl

/-- A file with the octets of a report holds the report. -/
theorem stored_of_openPath {fs : FileSystem} {path : String} {report : Report}
    (hfit : report.CountsFit) (hopen : fs.openPath path = .ok (.content report.octets)) :
    stored fs path = .ok report.unnamed :=
  stored_eq_ok_iff.mpr
    ⟨report.octets, report.toJson, hopen, parseFile_octets hfit, ofJson_toJson report⟩

theorem compiledCount_unnamed (report : Report) :
    report.unnamed.compiledCount = report.compiledCount := by
  simp only [compiledCount, unnamed, List.countP_map, Function.comp_def,
    FileResult.isFailed_unnamed]

theorem failedCount_unnamed (report : Report) :
    report.unnamed.failedCount = report.failedCount := by
  simp only [failedCount, unnamed, List.countP_map, Function.comp_def,
    FileResult.isFailed_unnamed]

/-- Files that failed keep their names. -/
theorem failedFiles_unnamed (report : Report) :
    report.unnamed.failedFiles = report.failedFiles := by
  simp only [failedFiles, unnamed]
  induction report.files with
  | nil => rfl
  | cons file rest ih =>
      cases file with
      | compiled name h => exact ih
      | failed name reason => exact congrArg (name :: ·) ih

end Report

/-- A report that was read back shows the same figures. -/
theorem Validate.transcript_unnamed (path : String) (report : Report) :
    transcript path report.unnamed = transcript path report := by
  have htotals : report.unnamed.totals = report.totals := rfl
  simp only [transcript, figures, report.compiledCount_unnamed, report.failedCount_unnamed,
    report.failedFiles_unnamed, htotals]

/-- A new report whose octets are in a file is validated, and its figures are
shown. -/
theorem Validate.prints_run_ofResults {fs : FileSystem} {path : String}
    {results : List FileResult} (hfit : (totalOf results).CountsFit)
    (hopen : fs.openPath path = .ok (.content (Report.ofResults results).octets)) :
    Action.Prints fs (run path) () (transcript path (.ofResults results)) := by
  have hstored := Report.stored_of_openPath (Report.countsFit_ofResults hfit) hopen
  have hconsistent := (Report.isConsistent_unnamed _).trans (Report.isConsistent_ofResults results)
  rw [← transcript_unnamed]
  exact prints_run hstored hconsistent

/-! ## The report of a run -/

/-- The report of a run has the totals of its files. -/
theorem Corpus.exists_ofResults {σ ρ : Type} {read : String → Action σ ρ String}
    {compilers : Compilers σ} {files : List String} {session last : Session σ} {report : Report}
    (h : run read compilers files session = .ok report last) :
    ∃ results, report = Report.ofResults results := by
  obtain ⟨results, _, _, h⟩ := Action.bind_eq_ok h
  exact ⟨results, (EStateM.Result.ok.inj h).1.symm⟩

namespace Analyze

/-- What was gathered has the totals of its files: it comes from a run. -/
theorem exists_ofResults {compilers : Compilers FileSystem} {s : Settings}
    {session last : Session FileSystem} {report : Report}
    (h : gather compilers s session = .ok report last) :
    ∃ results, report = Report.ofResults results := by
  obtain ⟨_, _, _, h⟩ := Action.bind_eq_ok h
  obtain ⟨_, _, _, h⟩ := Action.bind_eq_ok h
  obtain ⟨files, _, _, h⟩ := Action.bind_eq_ok h
  obtain ⟨_, _, _, h⟩ := Action.bind_eq_ok h
  obtain ⟨_, _, _, h⟩ := Action.bind_eq_ok h
  obtain ⟨found, _, hcorpus, h⟩ := Action.bind_eq_ok h
  obtain rfl : found = report := (EStateM.Result.ok.inj h).1
  exact Corpus.exists_ofResults (Action.ok_of_mapError_ok hcorpus)

/-! ## The whole analysis -/

/-- After a report was saved, its octets are in the file. -/
theorem openPath_of_saveIfAsked {s : Settings} {path : String} (houtput : s.output = some path)
    {report : Report} {session last : Session FileSystem}
    (h : saveIfAsked s report session = .ok () last) :
    last.state.openPath path = .ok (.content report.octets) := by
  unfold saveIfAsked at h
  rw [houtput] at h
  obtain ⟨_, saved, hsave, h⟩ := Action.bind_eq_ok h
  have hsame := ((Action.prints_log _ _ _).eq_of_run h).2.1
  rw [hsame]
  exact Report.openPath_of_save (Action.ok_of_mapError_ok hsave)

/-- An analysis that succeeds has gathered a report, has printed its text and has
saved it where the settings ask for it. -/
theorem exists_report_of_execute {compilers : Compilers FileSystem} (hsilent : compilers.Silent)
    {s : Settings} {seconds : String} {session last : Session FileSystem}
    (hrun : execute compilers s seconds session = .ok () last) :
    ∃ report gathered, gather compilers s session = .ok report gathered ∧
      last.journal.standardOutput = session.journal.standardOutput ++ (report.text ++ "\n") ∧
      ∀ path, s.output = some path →
        last.state.openPath path = .ok (.content report.octets) := by
  obtain ⟨report, gathered, hgather, h⟩ := Action.bind_eq_ok hrun
  obtain ⟨_, announced, hannounce, h⟩ := Action.bind_eq_ok h
  obtain ⟨_, printed, hprint, h⟩ := Action.bind_eq_ok h
  obtain ⟨_, saved, hsave, h⟩ := Action.bind_eq_ok h
  -- what is left tells something and keeps the files
  have hsummary : Action.Prints saved.state
      (do
        if s.summary then
          printSummary report s.top
        Action.log .info .corpus s!"Analysis completed in {seconds}s" :
        Action FileSystem CommandError Unit) () [] := by
    split
    · exact (prints_printSummary report s.top).bind (Action.prints_log _ _ _)
    · exact Action.prints_log _ _ _
  obtain ⟨_, hstate, hlast⟩ := hsummary.eq_of_run h
  refine ⟨report, gathered, hgather, ?printed, ?saved⟩
  case printed =>
    have hgathered := (silent_gather hsilent s).output_eq hgather
    have hannounced := (Action.silent_log _ _ _).output_eq hannounce
    have hprinted := ((Action.prints_printLine _).eq_of_run hprint).2.2
    have hsaved := (silent_saveIfAsked s report).output_eq hsave
    rw [hlast, hsaved, hprinted, hannounced, hgathered, Journal.ofLines_singleton,
      Journal.ofLines, List.map_nil, String.join_nil, String.append_empty]
  case saved =>
    intro path houtput
    rw [hstate]
    exact openPath_of_saveIfAsked houtput hsave

/-- An analysis that succeeds prints and saves the same octets: the text of its
report and a line feed.  As long as the file stays as it is, and if every total
is a number of 64 bits, validating it succeeds, changes no file, and prints the
figures of the report that the analysis had. -/
theorem saved_report_validates (launch : Launcher FileSystem) (s : Settings)
    (path seconds : String) (session last : Session FileSystem)
    (houtput : s.output = some path)
    (hrun : execute (.ofPrograms launch s.current s.legacy currentArguments) s seconds session =
      .ok () last) :
    ∃ report gathered,
      gather (.ofPrograms launch s.current s.legacy currentArguments) s session =
          .ok report gathered ∧
        last.journal.standardOutput =
          session.journal.standardOutput ++ (report.text ++ "\n") ∧
        last.state.openPath path = .ok (.content (Utf8.encode (report.text ++ "\n"))) ∧
        (report.totals.CountsFit →
          ∀ (name : String) (later : Session FileSystem),
            later.state.openPath name = last.state.openPath path →
              ∃ done, Validate.run name later = .ok () done ∧ done.state = later.state ∧
                done.journal.standardOutput = later.journal.standardOutput ++
                  Journal.ofLines (Validate.transcript name report)) := by
  have hsilent := Compilers.silent_ofPrograms launch s.current s.legacy currentArguments
  obtain ⟨report, gathered, hgather, hprinted, hsaved⟩ := exists_report_of_execute hsilent hrun
  have hopen := hsaved path houtput
  refine ⟨report, gathered, hgather, hprinted, hopen, fun hfit name later hunchanged => ?_⟩
  obtain ⟨results, rfl⟩ := exists_ofResults hgather
  exact (Validate.prints_run_ofResults hfit (hunchanged.trans hopen)).run_eq

/-! ### A small run -/

/-- A directory with two sources. -/
def smallFiles : FileSystem where
  tree := .directory [("src", .directory [("A.sol", .file [] false), ("B.sol", .file [] false)])]
  working := []

/-- What compilers answer about every source: a tree of one node, for one of the
two. -/
def smallAnswer : Json :=
  .object [("sources", .object [("A.sol", .object [("ast",
    .object [("nodeType", .string "SourceUnit")])])])]

def smallOutput : Finished where
  output := Utf8.encode smallAnswer.compact
  diagnostics := []
  unread := 0
  ending := .exited 0

/-- Every program writes this, and changes no file. -/
def smallLauncher : Launcher FileSystem :=
  fun _ _ _ fs => (.ok smallOutput, fs)

def smallSettings : Settings where
  directory := "src"
  output := some "out.json"

def smallCompilers : Compilers FileSystem :=
  .ofPrograms smallLauncher smallSettings.current smallSettings.legacy currentArguments

/-- One source is compiled and the other one is not. -/
def smallReport : Report :=
  .ofResults
    [.compiled "A.sol" (.ofPairs [("SourceUnit", 1)]), .failed "B.sol" Compilers.notCompiled]

/-- What the paths of the run are made of. -/
theorem paths_small :
    (∀ path ∈ ["src", "src/A.sol", "src/B.sol", "out.json"],
        FileSystem.rejects? path = none ∧ FileSystem.origin [] path = []) ∧
      (FileSystem.steps "src" = ["src"] ∧ FileSystem.steps "src/A.sol" = ["src", "A.sol"] ∧
        FileSystem.steps "src/B.sol" = ["src", "B.sol"] ∧
        FileSystem.steps "out.json" = ["out.json"]) ∧
      (Path.join "src" "A.sol" = "src/A.sol" ∧ Path.join "src" "B.sol" = "src/B.sol") ∧
      (Sources.hasExtension (some "sol") "A.sol" = true ∧
        Sources.hasExtension (some "sol") "B.sol" = true) ∧
      Path.names "out.json" = ["out.json"] ∧ Path.endsInSlash "out.json" = false ∧
      Path.parent? "out.json" = some "" := by
  decide +kernel

/-- Where the paths of the run lead. -/
theorem locate_small :
    (∃ entry, smallFiles.locate "src" = .ok (.present ["src"] (.directory
        [("A.sol", entry), ("B.sol", entry)]))) ∧
      smallFiles.locate "src/A.sol" = .ok (.present ["src", "A.sol"] (.file [] false)) ∧
      smallFiles.locate "src/B.sol" = .ok (.present ["src", "B.sol"] (.file [] false)) ∧
      smallFiles.locate "out.json" = .ok (.free [] "out.json") := by
  obtain ⟨htaken, hsteps, -⟩ := paths_small
  have hshort : ∀ name ∈ ["src", "A.sol", "B.sol", "out.json"],
      ¬ FileSystem.maxName < name.utf8ByteSize := by decide
  simp only [List.forall_mem_cons] at htaken hshort
  simp [FileSystem.locate, htaken, hsteps, hshort, smallFiles, FileSystem.walk,
    Entry.at?, Entry.child?, Keyed.lookup]

section Sources

variable {file : String} (h : file ∈ ["A.sol", "B.sol"])
include h

theorem find_small :
    ∃ location, smallFiles.find (Path.join "src" file) = .ok (location, .file [] false) := by
  obtain ⟨-, -, hjoin, -⟩ := paths_small
  obtain rfl | rfl : file = "A.sol" ∨ file = "B.sol" := by simpa using h
  · exact ⟨["src", "A.sol"], by simp only [hjoin, FileSystem.find, locate_small]⟩
  · exact ⟨["src", "B.sol"], by simp only [hjoin, FileSystem.find, locate_small]⟩

theorem isFile_small : smallFiles.isFile (Path.join "src" file) = true := by
  obtain ⟨location, hfind⟩ := find_small h
  simp only [FileSystem.isFile, hfind, Entry.isFile]

theorem prints_read_small : Action.Prints smallFiles (Sources.read "src" file) "" [] := by
  obtain ⟨location, hfind⟩ := find_small h
  have htext : Utf8.decode? [] = some "" := by decide +kernel
  refine .get_bind fun journal => ?_
  simp only [FileSystem.readFile, FileSystem.openPath, hfind, htext]
  exact Action.prints_pure _

end Sources

/-- Both names are listed, in their order. -/
theorem prints_list_small :
    Action.Prints smallFiles (Sources.list "src" (some "sol")) ["A.sol", "B.sol"] [] := by
  have hlist : smallFiles.list "src" = .ok ["A.sol", "B.sol"] := by
    obtain ⟨entry, hsource⟩ := locate_small.1
    simp [FileSystem.list, FileSystem.find, hsource]
  have hfirst := @isFile_small "A.sol" (by decide)
  have hsecond := @isFile_small "B.sol" (by decide)
  obtain ⟨-, -, -, hextension, -⟩ := paths_small
  have hsorted : (["A.sol", "B.sol"].mergeSort fun a b => !decide (b < a)) =
      ["A.sol", "B.sol"] := List.mergeSort_of_pairwise (by decide +kernel)
  refine .get_bind fun journal => ?_
  simp only [hlist, Sources.select, hfirst, hsecond, hextension, if_true, pure_bind, hsorted]
  exact Action.prints_pure _

/-- What is in the answer. -/
theorem answer_small :
    Json.parse (Utf8.decodeLossy smallOutput.output) = .ok smallAnswer ∧
      (Toolchain.current.tree? "A.sol" smallAnswer).map
        (Histogram.ofTree Toolchain.current.marker) = some (.ofPairs [("SourceUnit", 1)]) ∧
      Toolchain.current.tree? "B.sol" smallAnswer = none ∧
      Toolchain.legacy.tree? "B.sol" smallAnswer = none := by
  decide +kernel

/-- A toolchain has the tree that is in the answer. -/
theorem prints_tryToolchain_small (toolchain : Toolchain) (file : String) :
    Action.Prints smallFiles (smallCompilers.tryToolchain toolchain file "")
      ((toolchain.tree? file smallAnswer).map (Histogram.ofTree toolchain.marker)) [] := by
  have hcompile : Action.Prints smallFiles
      (smallCompilers.of toolchain (toolchain.request file ""))
      (Utf8.decodeLossy smallOutput.output) [] := by
    have hprogram (program : String) (arguments : List String) (input : String) :
        Action.Prints smallFiles (Compiler.ofProgram smallLauncher program arguments input)
          (Utf8.decodeLossy smallOutput.output) [] := by
      refine .log_bind _ _ _ ?_
      refine (Action.prints_onState rfl).silent_bind ?_
      exact Action.prints_pure _
    cases toolchain with
    | current => exact hprogram "solc" currentArguments (Toolchain.current.request file "")
    | legacy => exact hprogram "solc-legacy" [] (Toolchain.legacy.request file "")
  refine hcompile.silent_bind ?_
  simp only [answer_small.1]
  exact Action.prints_pure _

/-- One source has a tree in the first answer; for the other one both toolchains are asked. -/
theorem prints_analyze_small :
    Action.Prints smallFiles (smallCompilers.analyze "A.sol" "")
        (.compiled "A.sol" (.ofPairs [("SourceUnit", 1)])) [] ∧
      Action.Prints smallFiles (smallCompilers.analyze "B.sol" "")
        (.failed "B.sol" Compilers.notCompiled) [] := by
  have hcurrent := prints_tryToolchain_small .current
  have hlegacy := prints_tryToolchain_small .legacy "B.sol"
  obtain ⟨-, hfirst, hsecond⟩ := answer_small
  constructor
  · have htry := hcurrent "A.sol"
    rw [hfirst] at htry
    exact htry.silent_bind (.log_bind _ _ _ (Action.prints_pure _))
  · have htry := hcurrent "B.sol"
    rw [hsecond.1] at htry
    rw [hsecond.2] at hlegacy
    refine htry.silent_bind (.log_bind _ _ _ ?_)
    refine hlegacy.silent_bind (.log_bind _ _ _ ?_)
    exact .log_bind _ _ _ (Action.prints_pure _)

/-- The steps of the command come to the report, one after the other. -/
theorem prints_gather_small :
    Action.Prints smallFiles (gather smallCompilers smallSettings) smallReport [] := by
  have hfile {file : String} {result : FileResult} (hfile : file ∈ ["A.sol", "B.sol"])
      (hresult : Action.Prints smallFiles (smallCompilers.analyze file "") result []) :
      Action.Prints smallFiles (Corpus.analyzeFile (Sources.read "src") smallCompilers file)
        result [] := by
    refine .log_bind _ _ _ ?_
    exact ((prints_read_small hfile).mapError _).silent_bind (hresult.mapError _)
  have hfirst := hfile (by decide) prints_analyze_small.1
  have hsecond := hfile (by decide) prints_analyze_small.2
  have hrest : Action.Prints smallFiles
      (Corpus.analyzeFiles (Sources.read "src") smallCompilers ["B.sol"])
      [.failed "B.sol" Compilers.notCompiled] [] :=
    hsecond.silent_bind ((Action.prints_pure []).silent_bind (Action.prints_pure _))
  have hfiles : Action.Prints smallFiles
      (Corpus.analyzeFiles (Sources.read "src") smallCompilers ["A.sol", "B.sol"])
      smallReport.files [] :=
    hfirst.silent_bind (hrest.silent_bind (Action.prints_pure _))
  have hrun : Action.Prints smallFiles
      (Corpus.run (Sources.read "src") smallCompilers ["A.sol", "B.sol"]) smallReport [] := by
    refine hfiles.silent_bind (.silent_bind ?_ (Action.prints_pure _))
    exact .log_bind _ _ _ (Action.prints_pure _)
  refine .log_bind _ _ _ (.log_bind _ _ _ ?_)
  refine (prints_list_small.mapError _).silent_bind ?_
  refine .log_bind _ _ _ (.log_bind _ _ _ ?_)
  refine (hrun.mapError _).silent_bind ?_
  exact .log_bind _ _ _ (Action.prints_pure _)

/-- The report can be saved at a name that is free. -/
theorem save_small (session : Session FileSystem) (hstate : session.state = smallFiles) :
    ∃ saved, smallReport.save "out.json" session = .ok () saved := by
  obtain ⟨_, journal⟩ := session
  subst hstate
  obtain ⟨-, -, -, -, hnames, hslash, hparent⟩ := paths_small
  have hfault : Report.pathFault? smallFiles "out.json" = none := by
    simp [Report.pathFault?, FileSystem.isDirectory, FileSystem.find, locate_small]
  have hplace : smallFiles.findForWriting "out.json" = .ok ["out.json"] := by
    have htaken := paths_small.1 "out.json" (by decide)
    have hshort : ¬ FileSystem.maxName < "out.json".utf8ByteSize := by decide
    simp [FileSystem.findForWriting, htaken, hnames, hslash, smallFiles,
      FileSystem.walkForWriting, hshort, Entry.at?, Entry.child?, Keyed.lookup, Entry.isDirectory]
  have hpresent : ∀ parent, ¬ Report.LacksParent smallFiles "out.json" parent :=
    fun parent hlacks => hlacks.named (Option.some.inj (hlacks.isParent.symm.trans hparent))
  have heffect := Report.effect_save_of_place hfault hpresent hplace smallReport journal
  obtain ⟨told, hsaved⟩ := Action.effect_eq_ok_iff.mp heffect
  exact ⟨_, hsaved⟩

theorem saveIfAsked_small (session : Session FileSystem) (hstate : session.state = smallFiles) :
    ∃ saved, saveIfAsked smallSettings smallReport session = .ok () saved := by
  obtain ⟨saved, hsave⟩ := save_small session hstate
  have hasked : (smallReport.save "out.json").mapError CommandError.unsaved session =
      .ok () saved := by
    rw [Action.mapError, hsave]
  exact Action.exists_bind_ok hasked ⟨_, rfl⟩

/-- The whole command succeeds: its report is gathered, printed and saved. -/
theorem execute_small :
    ∃ last, execute smallCompilers smallSettings "0.00" ⟨smallFiles, #[]⟩ = .ok () last := by
  obtain ⟨told, hgather, _⟩ := prints_gather_small #[]
  refine Action.exists_bind_ok hgather (Action.exists_bind_ok rfl (Action.exists_bind_ok rfl ?_))
  exact (saveIfAsked_small _ rfl).elim fun saved hsave => Action.exists_bind_ok hsave ⟨_, rfl⟩

/-- Two sources are analyzed, the report is saved, and validating it prints its figures. -/
theorem saved_report_validates_small :
    ∃ last done, execute smallCompilers smallSettings "0.00" ⟨smallFiles, #[]⟩ = .ok () last ∧
      last.journal.standardOutput = smallReport.text ++ "\n" ∧
      Validate.run "out.json" last = .ok () done ∧
      done.journal.standardOutput = last.journal.standardOutput ++ Journal.ofLines
        ["Validating report: out.json", "✓ Valid report JSON", "  Compiled files: 1",
          "  Failed files: 1", "    - B.sol", "  Node kinds: 1", "  Total nodes: 1",
          "✓ Totals consistent"] := by
  obtain ⟨last, hrun⟩ := execute_small
  obtain ⟨report, gathered, hgather, hprinted, _, hvalid⟩ :=
    saved_report_validates smallLauncher smallSettings "out.json" "0.00" _ last rfl hrun
  obtain rfl := (prints_gather_small.eq_of_run hgather).1
  have hfit : smallReport.totals.CountsFit := by decide
  have hlines : Validate.transcript "out.json" smallReport =
      ["Validating report: out.json", "✓ Valid report JSON", "  Compiled files: 1",
        "  Failed files: 1", "    - B.sol", "  Node kinds: 1", "  Total nodes: 1",
        "✓ Totals consistent"] := by decide +kernel
  obtain ⟨done, hdone, _, houtput⟩ := hvalid hfit "out.json" last rfl
  exact ⟨last, done, hrun, hprinted.trans String.empty_append, hdone, hlines ▸ houtput⟩

end Analyze
end SyntaxCensus
