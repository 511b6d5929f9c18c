import SyntaxCensus.Command.Program
import SyntaxCensus.Proofs.Command.Saving
import SyntaxCensus.Proofs.Corpus.Failures
import SyntaxCensus.Proofs.Files.Listing

/-!
# What an analysis prints

An analysis prints the text of its whole report or nothing.  It prints nothing if
anything goes wrong before there is a report; what goes wrong when the report is
saved is of no consequence, and so is how it is summed up and what is logged.

Main definitions:

- `Analyze.printed`, `Analyze.left`: what an analysis prints and the files after
  it.
- `Analyze.Reports`: a report of the sources that settings select.
- `Analyze.Breaks`: a listing, a reading or a compiler fails before there is a
  report.
- `Analyze.SameMaterial`: what the reports of two analyses depend on is the same.

Main results:

- `Analyze.gives_gather_iff`, `Analyze.fails_gather_iff`: when there is a report
  and when there is none.
- `Analyze.printed_of_reports`, `Analyze.printed_of_breaks`: what is printed then.
- `Analyze.SameMaterial.reports_iff`: reports of the same material.
- `Analyze.prints_report_or_nothing`: what every analysis prints.
-/

namespace SyntaxCensus

/-! ## Compilers that are programs -/

/-- A program is given its input and nothing that was told. -/
theorem Compilers.blind_ofPrograms {σ : Type} (launch : Launcher σ) (current legacy : String)
    (arguments : List String) : (ofPrograms launch current legacy arguments).Blind := by
  have hprogram (program : String) (arguments : List String) (input : String) :
      Action.Blind (Compiler.ofProgram launch program arguments input) := by
    refine Action.Blind.log_bind _ _ _ ?_
    refine (Action.hasEffect_onState _).blind.bind fun finished => ?_
    refine (finished.hasEffect_tell program).blind.bind fun _ => ?_
    exact Action.agree_pure (Utf8.decodeLossy finished.output)
  intro toolchain input
  cases toolchain with
  | current => exact hprogram current arguments input
  | legacy => exact hprogram legacy [] input

namespace Analyze

/-! ## Reports and failures -/

/-- From some files, the sources that settings select have a report. -/
def Reports (compilers : Compilers FileSystem) (s : Settings) (files : FileSystem)
    (report : Report) : Prop :=
  ∃ sources, (Sources.list s.directory s.extension).Gives ⟨files, #[]⟩ sources ∧
    (Corpus.run (Sources.read s.directory) compilers sources).Gives ⟨files, #[]⟩ report

/-- The sources cannot be listed, or the run over them comes to a source that
cannot be read or a compiler that fails.  A file system has no faults of its own, so
a directory that passed the check of the settings is listed: with these only the
second way is open. -/
inductive Breaks (compilers : Compilers FileSystem) (s : Settings) (files : FileSystem) : Prop
  | unlisted {cause : SystemFault} (failed : files.list s.directory = .error cause)
  | unfinished {sources : List String}
      (listed : (Sources.list s.directory s.extension).Gives ⟨files, #[]⟩ sources)
      (failed : Corpus.Breaks (Sources.read s.directory) compilers sources files)

section Gather

variable {compilers : Compilers FileSystem} (hcompilers : compilers.Blind) (s : Settings)

/-- Listing looks at the files only. -/
theorem blind_list : (Sources.list s.directory s.extension).Blind :=
  (Sources.hasEffect_list s.directory s.extension).blind

include hcompilers

/-- A run looks at the files, and at what its compilers do. -/
theorem blind_run (sources : List String) :
    (Corpus.run (Sources.read s.directory) compilers sources).Blind :=
  Corpus.agree_run (fun name _ => (Sources.hasEffect_read s.directory name).blind) hcompilers

/-- Gathering is a listing and a run, whatever is told about them. -/
theorem agree_gather :
    Action.Agree (· = ·) (gather compilers s)
      (do
        let sources ← (Sources.list s.directory s.extension).mapError CommandError.sources
        (Corpus.run (Sources.read s.directory) compilers sources).mapError .corpus) := by
  refine .log_bind _ _ _ ?_
  refine .log_bind _ _ _ ?_
  refine ((blind_list s).mapError CommandError.sources).bind fun sources => ?_
  refine .log_bind _ _ _ ?_
  refine .log_bind _ _ _ ?_
  exact ((blind_run hcompilers s sources).mapError CommandError.corpus).bind_log _ _ _

/-- Gathering gives the report of the sources. -/
theorem gives_gather_iff {files : FileSystem} {report : Report} :
    (gather compilers s).Gives ⟨files, #[]⟩ report ↔ Reports compilers s files report := by
  have hrun (sources : List String) := (blind_run hcompilers s sources).mapError
    CommandError.corpus
  rw [← Action.exists_leads_iff]
  simp only [Reports, Sources.gives_list_iff, (agree_gather hcompilers s).leads_iff,
    Action.leads_bind_iff hrun, Action.leads_mapError_iff, Sources.leads_list_iff]
  constructor
  · rintro ⟨last, sources, _, ⟨hlisted, rfl⟩, hreport⟩
    exact ⟨sources, hlisted, Action.exists_leads_iff.mp ⟨last, hreport⟩⟩
  · rintro ⟨sources, hlisted, hreport⟩
    obtain ⟨last, hleads⟩ := Action.exists_leads_iff.mpr hreport
    exact ⟨last, sources, files, ⟨hlisted, rfl⟩, hleads⟩

/-- Gathering fails if a listing, a reading or a compiler does. -/
theorem fails_gather_iff {files : FileSystem} :
    (gather compilers s).Fails files ↔ Breaks compilers s files := by
  have hrun (sources : List String) := (blind_run hcompilers s sources).mapError
    CommandError.corpus
  simp only [(agree_gather hcompilers s).fails_iff, Action.fails_bind_iff hrun,
    Action.leads_mapError_iff, Action.fails_mapError_iff, Corpus.fails_run_iff
      (fun name => (Sources.hasEffect_read s.directory name).blind) hcompilers]
  constructor
  · rintro (hfails | ⟨sources, _, hlisted, hfails⟩)
    · obtain ⟨cause, hcause⟩ := Sources.fails_list_iff.mp hfails
      exact .unlisted hcause
    · obtain ⟨hsources, rfl⟩ := Sources.leads_list_iff.mp hlisted
      exact .unfinished (Sources.gives_list_iff.mpr hsources) hfails
  · intro hbreaks
    cases hbreaks with
    | unlisted failed => exact .inl (Sources.fails_list_iff.mpr ⟨_, failed⟩)
    | unfinished listed failed =>
        have hsources := Sources.gives_list_iff.mp listed
        exact .inr ⟨_, files, Sources.leads_list_iff.mpr ⟨hsources, rfl⟩, failed⟩

/-- There is a report exactly if nothing fails before. -/
theorem exists_reports_iff {files : FileSystem} :
    (∃ report, Reports compilers s files report) ↔ ¬ Breaks compilers s files := by
  rw [← fails_gather_iff hcompilers, Action.not_fails_iff]
  simp only [Action.exists_leads_iff, gives_gather_iff hcompilers]

omit hcompilers in
/-- Gathering changes the files by calls of compilers only. -/
theorem within_gather : Action.Within compilers.Changes (gather compilers s) :=
  compositional_gather Action.compositional_within compilers compilers compilers.within_of s
    (Sources.within_list _ s.directory s.extension) (Sources.within_read _ s.directory)

end Gather

/-! ## Standard output -/

/-- What an analysis prints. -/
def printed (compilers : Compilers FileSystem) (s : Settings) (seconds : String)
    (files : FileSystem) : String :=
  ((run compilers s seconds).start files).2.journal.standardOutput

/-- The files after an analysis. -/
def left (compilers : Compilers FileSystem) (s : Settings) (seconds : String)
    (files : FileSystem) : FileSystem :=
  ((run compilers s seconds).start files).2.state

/-- What an analysis does after its report was printed prints nothing. -/
theorem silent_afterwards (s : Settings) (seconds : String) (report : Report) :
    Action.Silent (do
      saveIfAsked s report
      if s.summary then
        printSummary report s.top
      Action.log .info .corpus s!"Analysis completed in {seconds}s") := by
  have hsummary : Action.Silent
      (printSummary report s.top : Action FileSystem CommandError Unit) :=
    Action.Prints.silent fun _ => prints_printSummary report s.top
  refine (silent_saveIfAsked s report).bind fun _ => ?_
  split
  · exact hsummary.bind fun _ => Action.silent_log _ _ _
  · exact Action.silent_log _ _ _

/-- Checking settings finds their fault, and does nothing else. -/
theorem check_eq (s : Settings) (session : Session FileSystem) :
    s.check session =
      match s.fault? session.state with
      | some reason => .error (.badSettings reason) session
      | none => .ok () session := by
  have hcheck : s.check session = (match s.fault? session.state with
      | some reason => throw (.badSettings reason)
      | none => pure () : Action FileSystem CommandError Unit) session := rfl
  rw [hcheck]
  cases s.fault? session.state <;> rfl

/-- Settings with a fault end the run before anything is told or done. -/
theorem start_run_of_fault {s : Settings} {files : FileSystem} {fault : SettingsFault}
    (h : s.fault? files = some fault) (compilers : Compilers FileSystem) (seconds : String) :
    (run compilers s seconds).start files = (.error (.badSettings fault), ⟨files, #[]⟩) := by
  have hcheck : s.check ⟨files, #[]⟩ = .error (.badSettings fault) ⟨files, #[]⟩ := by
    rw [check_eq, h]
  have hrun : run compilers s seconds ⟨files, #[]⟩ = _ := Action.bind_of_error hcheck _
  simp only [Action.start, EStateM.run, hrun]

section Valid

variable {compilers : Compilers FileSystem} {s : Settings} {files : FileSystem}
  (hvalid : s.fault? files = none) (hsilent : compilers.Silent) (seconds : String)

include hvalid in
/-- Settings without a fault are worked with. -/
theorem after_run_of_valid :
    ((run compilers s seconds).start files).2 =
      (execute compilers s seconds).after ⟨files, #[]⟩ := by
  have hcheck : s.check ⟨files, #[]⟩ = .ok () ⟨files, #[]⟩ := by rw [check_eq, hvalid]
  rw [Action.start_snd]
  exact Action.after_bind_of_ok hcheck _

include hsilent in
/-- The text of the report is printed as soon as it is there, and nothing else
is. -/
theorem output_execute {session gathered : Session FileSystem} {report : Report}
    (hgather : gather compilers s session = .ok report gathered) :
    ((execute compilers s seconds).after session).journal.standardOutput =
      session.journal.standardOutput ++ (report.text ++ "\n") := by
  obtain ⟨announced, hannounce, hannounced⟩ : ∃ announced,
      (Action.log .info .corpus "Step 3/3: Writing report..." :
        Action FileSystem CommandError Unit) gathered = .ok () announced ∧
      announced.journal.standardOutput = gathered.journal.standardOutput :=
    ⟨_, rfl, Journal.standardOutput_push_log _ _⟩
  obtain ⟨shown, hprint, hshown⟩ : ∃ shown,
      (Action.printLine report.text : Action FileSystem CommandError Unit) announced =
        .ok () shown ∧
      shown.journal.standardOutput =
        announced.journal.standardOutput ++ (report.text ++ "\n") :=
    ⟨_, rfl, Journal.standardOutput_push_output _ _⟩
  unfold execute
  rw [Action.after_bind_of_ok hgather, Action.after_bind_of_ok hannounce,
    Action.after_bind_of_ok hprint, silent_afterwards s seconds report shown, hshown, hannounced,
    (silent_gather hsilent s).output_eq hgather]

variable (hblind : compilers.Blind)
include hvalid hsilent hblind

/-- A report is printed, whatever comes after it. -/
theorem printed_of_reports {report : Report} (h : Reports compilers s files report) :
    printed compilers s seconds files = report.text ++ "\n" := by
  obtain ⟨gathered, hgather⟩ := (gives_gather_iff hblind s).mpr h
  rw [printed, after_run_of_valid hvalid, output_execute hsilent seconds hgather]
  exact String.empty_append

/-- After a failure nothing is printed, and only the compilers changed files. -/
theorem printed_of_breaks (h : Breaks compilers s files) :
    printed compilers s seconds files = "" ∧
      Relation.ReflTransGen compilers.Changes files (left compilers s seconds files) := by
  obtain ⟨reason, last, hgather⟩ := ((fails_gather_iff hblind s).mpr h).run_eq
  have hafter : ((run compilers s seconds).start files).2 =
      (gather compilers s).after ⟨files, #[]⟩ := by
    rw [after_run_of_valid hvalid]
    exact Action.after_bind_of_error hgather _
  rw [printed, left, hafter]
  exact ⟨silent_gather hsilent s ⟨files, #[]⟩, within_gather s ⟨files, #[]⟩⟩

end Valid

/-! ## Runs that print the same -/

/-- Two analyses have the same material: directories with the same names, sources
that are alike in all states that are related, and compilers that answer alike
from these and leave them related. -/
structure SameMaterial (rel : FileSystem → FileSystem → Prop)
    (compilers others : Compilers FileSystem) (s t : Settings) (files files' : FileSystem) :
    Prop where
  extension : s.extension = t.extension
  directory : ∃ names names', names.Perm names' ∧ files.list s.directory = .ok names ∧
    files'.list t.directory = .ok names' ∧
    ∀ fs fs', rel fs fs' → Sources.Alike names s.directory t.directory fs fs'
  replies : compilers.Agree rel others
  start : rel files files'

section Same

variable {compilers others : Compilers FileSystem} {s t : Settings} {files files' : FileSystem}

/-- Analyses with the same material have the same report. -/
theorem SameMaterial.reports_iff {rel : FileSystem → FileSystem → Prop}
    (h : SameMaterial rel compilers others s t files files') (report : Report) :
    Reports compilers s files report ↔ Reports others t files' report := by
  obtain ⟨names, names', hperm, hnames, hnames', halike⟩ := h.directory
  have hlisted := (halike files files' h.start).listed_eq hperm hnames hnames' s.extension
  unfold Reports
  simp only [Sources.gives_list_iff, ← h.extension, ← hlisted]
  refine exists_congr fun sources => and_congr_right fun hsources => ?_
  refine (Corpus.agree_run (fun name hname => ?_) h.replies).gives_iff h.start report
  exact Sources.agree_read halike (Sources.mem_of_listed hnames hsources hname)

/-- Analyses with the same reports print the same. -/
theorem printed_eq_of_reports_iff (hvalid : s.fault? files = none)
    (hvalid' : t.fault? files' = none) (hsilent : compilers.Silent) (hblind : compilers.Blind)
    (hsilent' : others.Silent) (hblind' : others.Blind)
    (h : ∀ report, Reports compilers s files report ↔ Reports others t files' report)
    (seconds seconds' : String) :
    printed compilers s seconds files = printed others t seconds' files' := by
  by_cases hreport : ∃ report, Reports compilers s files report
  · obtain ⟨report, hreport⟩ := hreport
    rw [printed_of_reports hvalid hsilent seconds hblind hreport,
      printed_of_reports hvalid' hsilent' seconds' hblind' ((h report).mp hreport)]
  · have hbreaks := not_not.mp (mt (exists_reports_iff hblind s).mpr hreport)
    have hbreaks' := not_not.mp (mt (exists_reports_iff hblind' t).mpr
      (by simpa only [h] using hreport))
    rw [(printed_of_breaks hvalid hsilent seconds hblind hbreaks).1,
      (printed_of_breaks hvalid' hsilent' seconds' hblind' hbreaks').1]

/-- What settings without a fault are. -/
theorem fault_eq_none_iff :
    s.fault? files = none ↔
      s.directory.isEmpty = false ∧ files.isDirectory s.directory = true ∧
        s.extension ≠ some "" ∧ (s.current.isEmpty || s.legacy.isEmpty) = false ∧
        0 < s.top ∧ s.top ≤ maxTopKinds := by
  unfold Settings.fault?
  split_ifs <;> grind

/-- Whether settings have a fault does not depend on how their report is
shown. -/
theorem fault_eq_none_of_shown (hvalid : s.fault? files = none) (output : Option String)
    (summary : Bool) {top : Nat} (hpos : 0 < top) (hmax : top ≤ maxTopKinds) :
    { s with output, summary, top }.fault? files = none := by
  obtain ⟨hdirectory, hexists, hextension, hprograms, -⟩ := fault_eq_none_iff.mp hvalid
  exact fault_eq_none_iff.mpr ⟨hdirectory, hexists, hextension, hprograms, hpos, hmax⟩

end Same

/-- The program prints what the analysis prints, whatever log it is asked for. -/
theorem answer_analyze (launch : Launcher FileSystem) (environment : Environment) (verbose : Bool)
    (s : Settings) (seconds : String) (files : FileSystem) :
    (Program.answer launch environment ⟨verbose, .analyze s⟩ seconds files).1.output =
        printed (.ofPrograms launch s.current s.legacy currentArguments) s seconds files ∧
      (Program.answer launch environment ⟨verbose, .analyze s⟩ seconds files).2 =
        left (.ofPrograms launch s.current s.legacy currentArguments) s seconds files := by
  unfold Program.answer printed left Program.perform
  dsimp only
  cases (run (.ofPrograms launch s.current s.legacy currentArguments) s seconds).start files with
  | mk result session => cases result <;> exact ⟨rfl, rfl⟩

/-- An analysis prints nothing, or the text of its whole report and a line feed.
Settings with a fault end it before any compiler is called, with nothing printed
and no file changed.  If the sources cannot be listed, or one of them cannot be
read, or a compiler fails for one, nothing is printed, and the files are changed
by calls of compilers only.  Else the report is printed, whether or not it can be
saved then.  What is printed is the same for all analyses with the same material,
whatever is saved or summed up, and the program prints it whatever it logs. -/
theorem prints_report_or_nothing {compilers : Compilers FileSystem} (hsilent : compilers.Silent)
    (hblind : compilers.Blind) (s : Settings) (seconds : String) (files : FileSystem) :
    (printed compilers s seconds files = "" ∨
      ∃ report, Reports compilers s files report ∧
        printed compilers s seconds files = report.text ++ "\n") ∧
    (∀ fault, s.fault? files = some fault → ∀ others : Compilers FileSystem,
      (run others s seconds).start files = (.error (.badSettings fault), ⟨files, #[]⟩)) ∧
    (s.fault? files = none → Breaks compilers s files →
      printed compilers s seconds files = "" ∧
        Relation.ReflTransGen compilers.Changes files (left compilers s seconds files)) ∧
    (s.fault? files = none → ¬ Breaks compilers s files →
      ∃ report, Reports compilers s files report ∧
        printed compilers s seconds files = report.text ++ "\n") ∧
    (∀ rel others t seconds' files', others.Silent → others.Blind →
      SameMaterial rel compilers others s t files files' →
      s.fault? files = none → t.fault? files' = none →
        printed compilers s seconds files = printed others t seconds' files') ∧
    (∀ output summary top seconds', s.fault? files = none → 0 < top → top ≤ maxTopKinds →
      printed compilers { s with output, summary, top } seconds' files =
        printed compilers s seconds files) ∧
    ∀ launch environment verbose,
      let programs : Compilers FileSystem :=
        .ofPrograms launch s.current s.legacy currentArguments
      let answer := Program.answer launch environment ⟨verbose, .analyze s⟩ seconds files
      programs.Silent ∧ programs.Blind ∧ answer.1.output = printed programs s seconds files ∧
        answer.2 = left programs s seconds files := by
  have hreport (hvalid : s.fault? files = none) (h : ¬ Breaks compilers s files) :
      ∃ report, Reports compilers s files report ∧
        printed compilers s seconds files = report.text ++ "\n" := by
    obtain ⟨report, hreports⟩ := (exists_reports_iff hblind s).mpr h
    exact ⟨report, hreports, printed_of_reports hvalid hsilent seconds hblind hreports⟩
  have hbreaks (hvalid : s.fault? files = none) (h : Breaks compilers s files) :=
    printed_of_breaks hvalid hsilent seconds hblind h
  refine ⟨?either, fun fault hfault others => start_run_of_fault hfault others seconds, hbreaks,
    hreport, ?material, ?shown, ?program⟩
  case either =>
    cases hvalid : s.fault? files with
    | some fault =>
        rw [printed, start_run_of_fault hvalid]
        exact .inl rfl
    | none =>
        by_cases h : Breaks compilers s files
        · exact .inl (hbreaks hvalid h).1
        · exact .inr (hreport hvalid h)
  case material =>
    intro rel others t seconds' files' hsilent' hblind' hsame hvalid hvalid'
    exact printed_eq_of_reports_iff hvalid hvalid' hsilent hblind hsilent' hblind'
      hsame.reports_iff seconds seconds'
  case shown =>
    intro output summary top seconds' hvalid hpos hmax
    exact printed_eq_of_reports_iff (fault_eq_none_of_shown hvalid output summary hpos hmax) hvalid
      hsilent hblind hsilent hblind (fun _ => Iff.rfl) seconds' seconds
  case program =>
    intro launch environment verbose
    obtain ⟨houtput, hleft⟩ := answer_analyze launch environment verbose s seconds files
    exact ⟨Compilers.silent_ofPrograms _ _ _ _, Compilers.blind_ofPrograms _ _ _ _, houtput, hleft⟩

/-! ### A small run -/

theorem fault_small : smallSettings.fault? smallFiles = none := by
  obtain ⟨entry, hsource⟩ := locate_small.1
  have hdirectory : smallFiles.isDirectory "src" = true := by
    simp [FileSystem.isDirectory, FileSystem.find, hsource, Entry.isDirectory]
  have hnames : "src".isEmpty = false ∧ ("solc".isEmpty || "solc-legacy".isEmpty) = false := by
    decide +kernel
  exact fault_eq_none_iff.mpr ⟨hnames.1, hdirectory, by decide, hnames.2, by decide, by decide⟩

/-- The small run has one report. -/
theorem reports_small_iff {report : Report} :
    Reports smallCompilers smallSettings smallFiles report ↔ report = smallReport := by
  have hblind : smallCompilers.Blind := Compilers.blind_ofPrograms _ _ _ _
  obtain ⟨last, hrun, -⟩ := prints_gather_small #[]
  rw [← gives_gather_iff hblind]
  constructor
  · rintro ⟨_, hother⟩
    exact (prints_gather_small.eq_of_run hother).1
  · rintro rfl
    exact ⟨_, hrun⟩

/-- The small run prints its report, and prints it too if it is summed up and not saved. -/
theorem prints_report_or_nothing_small :
    smallCompilers.Silent ∧ smallCompilers.Blind ∧
      printed smallCompilers smallSettings "0.00" smallFiles = smallReport.text ++ "\n" ∧
      printed smallCompilers { smallSettings with output := none, summary := true, top := 1 } "0.01"
        smallFiles = smallReport.text ++ "\n" := by
  have hsilent : smallCompilers.Silent := Compilers.silent_ofPrograms _ _ _ _
  have hblind : smallCompilers.Blind := Compilers.blind_ofPrograms _ _ _ _
  obtain ⟨-, -, -, hreport, -, hshown, -⟩ :=
    prints_report_or_nothing hsilent hblind smallSettings "0.00" smallFiles
  have hbreaks : ¬ Breaks smallCompilers smallSettings smallFiles :=
    (exists_reports_iff hblind smallSettings).mp ⟨smallReport, reports_small_iff.mpr rfl⟩
  obtain ⟨report, hreports, hprinted⟩ := hreport fault_small hbreaks
  obtain rfl := reports_small_iff.mp hreports
  exact ⟨hsilent, hblind, hprinted,
    (hshown none true 1 "0.01" fault_small (by decide) (by decide)).trans hprinted⟩

end Analyze
end SyntaxCensus
