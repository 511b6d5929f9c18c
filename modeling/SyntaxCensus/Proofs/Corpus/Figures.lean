import SyntaxCensus.Proofs.Command.Saving
import SyntaxCensus.Report.Summary

/-!
# Figures of a corpus

The figures of a report are read off its totals.  If the totals are right the
figures are those of the compiled files one by one: the nodes add up, also where
files have kinds in common, and the kinds are those that occur in some file.

Main definitions:

- `Summary.Describes`: figures that are those of results for files.

Main results:

- `Summary.describes_ofReport`: the figures of a report with right totals.
- `Summary.figures_describe_files`: so are those of a run and those of a report
  that was saved and opened again.
-/

namespace SyntaxCensus

namespace Summary

/-- Figures that are those of results for files, taken one by one. -/
structure Describes (s : Summary) (results : List FileResult) : Prop where
  files : s.files = results.length
  parts : s.files = s.compiled + s.failed
  compiled : s.compiled = (results.filterMap FileResult.histogram?).length
  nodes : s.nodes = ((results.filterMap FileResult.histogram?).map Histogram.total).sum
  kinds : ∃ kinds : Finset String, s.kinds = kinds.card ∧
    ∀ kind, kind ∈ kinds ↔ ∃ file h, FileResult.compiled file h ∈ results ∧ 0 < h.get kind
  divisor : s.meanNodes = s.nodes / max s.compiled 1 ∧ max s.compiled 1 ≠ 0
  mean : 0 < s.compiled →
    s.meanNodes * s.compiled ≤ s.nodes ∧ s.nodes < (s.meanNodes + 1) * s.compiled
  meanOfNone : s.compiled = 0 → s.meanNodes = 0

/-! ## The mean -/

/-- The mean is the number of nodes divided by that of compiled files, rounded
down. -/
theorem meanNodes_bounds {s : Summary} (h : 0 < s.compiled) :
    s.meanNodes * s.compiled ≤ s.nodes ∧ s.nodes < (s.meanNodes + 1) * s.compiled := by
  have hdivisor : max s.compiled 1 = s.compiled := Nat.max_eq_left h
  rw [meanNodes, hdivisor]
  refine ⟨Nat.div_mul_le_self _ _, ?_⟩
  rw [Nat.mul_comm]
  exact Nat.lt_mul_div_succ _ h

end Summary

/-! ## The files of a report -/

namespace Report

/-- A file is compiled or failed. -/
theorem length_files_eq (report : Report) :
    report.files.length = report.compiledCount + report.failedCount := by
  have hcompiled : report.compiledCount =
      report.files.countP fun result => decide ¬result.isFailed = true :=
    List.countP_congr fun result _ => by simp
  rw [List.length_eq_countP_add_countP FileResult.isFailed, Nat.add_comm, hcompiled]
  rfl

/-- Every compiled file has one histogram. -/
theorem compiledCount_eq (report : Report) :
    report.compiledCount = (report.files.filterMap FileResult.histogram?).length := by
  rw [compiledCount]
  induction report.files with
  | nil => rfl
  | cons result rest ih =>
      cases result with
      | compiled file h =>
          rw [List.countP_cons_of_pos rfl, ih, List.filterMap_cons, FileResult.histogram?,
            List.length_cons]
      | failed file reason =>
          rw [List.countP_cons_of_neg (by simp [FileResult.isFailed]), ih, List.filterMap_cons,
            FileResult.histogram?]

end Report

namespace Summary

/-- Without the names of compiled files the figures are the same. -/
theorem ofReport_unnamed (report : Report) : ofReport report.unnamed = ofReport report := by
  have hlength : report.unnamed.files.length = report.files.length := List.length_map _
  have htotals : report.unnamed.totals = report.totals := rfl
  simp only [ofReport, hlength, htotals, report.compiledCount_unnamed, report.failedCount_unnamed]

/-- The figures of a report with right totals are those of its files. -/
theorem describes_ofReport {report : Report} (h : report.isConsistent = true) :
    (ofReport report).Describes report.files := by
  have htotals : report.totals = totalOf report.files := (of_decide_eq_true h).symm
  have hnodes : (ofReport report).nodes =
      ((report.files.filterMap FileResult.histogram?).map Histogram.total).sum := by
    rw [ofReport, htotals, totalOf, Histogram.total_sum]
  refine ⟨rfl, report.length_files_eq, report.compiledCount_eq, hnodes, ?kinds, ⟨rfl, by omega⟩,
    meanNodes_bounds, ?none⟩
  case kinds =>
    refine ⟨report.totals.kinds, report.totals.size_eq_card, fun kind => ?_⟩
    rw [Histogram.mem_kinds_iff, htotals, get_totalOf_pos_iff]
  case none =>
    intro hnone
    have hempty : report.files.filterMap FileResult.histogram? = [] :=
      List.eq_nil_of_length_eq_zero (report.compiledCount_eq.symm.trans hnone)
    rw [meanNodes, hnodes, hempty]
    exact Nat.zero_div _

/-- The figures of a report with right totals are those of its files: of every
report that a run over a corpus gives, and, if its counts are numbers of 64 bits, of
every report that is opened from a file that it was saved in, as long as the file
stays as it is. -/
theorem figures_describe_files :
    (∀ report : Report, report.isConsistent = true →
        (ofReport report).Describes report.files) ∧
      (∀ (σ ρ : Type) (read : String → Action σ ρ String) (compilers : Compilers σ)
          (files : List String) (session last : Session σ) (report : Report),
        Corpus.run read compilers files session = .ok report last →
          report.isConsistent = true ∧ (ofReport report).Describes report.files) ∧
      ∀ (report : Report) (path : String) (session saved : Session FileSystem),
        report.isConsistent = true → report.CountsFit →
          report.save path session = .ok () saved →
            ∀ (name : String) (later : Session FileSystem),
              later.state.openPath name = saved.state.openPath path →
                ∃ loaded last, Report.openFrom name later = .ok loaded last ∧
                  loaded.isConsistent = true ∧ ofReport loaded = ofReport report ∧
                  (ofReport loaded).Describes loaded.files := by
  refine ⟨fun report => describes_ofReport, ?run, ?saved⟩
  case run =>
    intro σ ρ read compilers files session last report hrun
    obtain ⟨results, rfl⟩ := Corpus.exists_ofResults hrun
    have hconsistent := Report.isConsistent_ofResults results
    exact ⟨hconsistent, describes_ofReport hconsistent⟩
  case saved =>
    intro report path session saved hconsistent hfit hsave name later hunchanged
    have hopen := hunchanged.trans (Report.openPath_of_save hsave)
    have hloaded := (report.isConsistent_unnamed).trans hconsistent
    obtain ⟨last, hrun, -⟩ := (Report.prints_openFrom (Report.stored_of_openPath hfit hopen)).run_eq
    exact ⟨report.unnamed, last, hrun, hloaded, ofReport_unnamed report,
      describes_ofReport hloaded⟩

/-- A report about two files, one of which is compiled, has the same figures after it
was saved and opened again. -/
theorem figures_describe_files_small :
    Analyze.smallReport.isConsistent = true ∧ Analyze.smallReport.CountsFit ∧
      ∃ saved loaded last,
        Analyze.smallReport.save "out.json" ⟨Analyze.smallFiles, #[]⟩ = .ok () saved ∧
        Report.openFrom "out.json" saved = .ok loaded last ∧
        ofReport loaded = ⟨2, 1, 1, 1, 1⟩ ∧ (ofReport loaded).Describes loaded.files := by
  have hconsistent := Report.isConsistent_ofResults Analyze.smallReport.files
  have hfit : Analyze.smallReport.CountsFit := Report.countsFit_ofResults (by decide)
  obtain ⟨saved, hsave⟩ := Analyze.save_small ⟨Analyze.smallFiles, #[]⟩ rfl
  obtain ⟨-, -, hreloads⟩ := figures_describe_files
  obtain ⟨loaded, last, hopen, -, hsame, hdescribes⟩ :=
    hreloads Analyze.smallReport "out.json" _ saved hconsistent hfit hsave "out.json" saved rfl
  have hfigures : ofReport Analyze.smallReport = ⟨2, 1, 1, 1, 1⟩ := by decide +kernel
  exact ⟨hconsistent, hfit, saved, loaded, last, hsave, hopen, hsame.trans hfigures, hdescribes⟩

end Summary
end SyntaxCensus
