import Mathlib.Data.List.Perm.Basic
import SyntaxCensus.Proofs.Corpus
import SyntaxCensus.Proofs.Corpus.Agreement
import SyntaxCensus.Proofs.Report.Totals

/-!
# Corpora that are joined and reordered

If sources and compilers answer by what they are asked and not by what was asked
before, a file has the same result in every corpus.  A run then gives the results
of its files one by one, so the runs over two lists of files make up the run over
both, and the order of the files is the order of the results and of no further
consequence.

Main definitions:

- `Corpus.Finds`: the result that a file has from every session.

Main results:

- `Corpus.run_gives_iff`: a run gives the results of its files and their total.
- `Corpus.finds_append_iff`, `Corpus.exists_finds_perm`: results of joined and of
  reordered files.
- `Corpus.run_composes`: runs over joined and over reordered files.
-/

namespace SyntaxCensus
namespace Corpus

variable {σ ρ : Type}

/-- From every session a file has a result. -/
def Finds (read : String → Action σ ρ String) (compilers : Compilers σ) (file : String)
    (result : FileResult) : Prop :=
  ∀ session, (analyzeFile read compilers file).Gives session result

section Stateless

variable {read : String → Action σ ρ String} {compilers : Compilers σ}
  (hread : ∀ file, (read file).Stateless) (hcompilers : compilers.Stateless)
include hread hcompilers

/-- The result that a file has from one session it has from every other one. -/
theorem finds_of_gives {file : String} {session : Session σ} {result : FileResult}
    (h : (analyzeFile read compilers file).Gives session result) :
    Finds read compilers file result :=
  fun _ => ((agree_analyzeFile (hread file) hcompilers).gives_iff trivial result).mp h

/-- The files give the results that each of them has. -/
theorem analyzeFiles_gives_iff {files : List String} {session : Session σ}
    {results : List FileResult} :
    (analyzeFiles read compilers files).Gives session results ↔
      List.Forall₂ (Finds read compilers) files results := by
  induction files generalizing session results with
  | nil =>
      constructor
      · rintro ⟨last, hrun⟩
        obtain ⟨rfl, _⟩ := EStateM.Result.ok.inj hrun
        exact .nil
      · intro h
        cases h
        exact ⟨session, rfl⟩
  | cons file rest ih =>
      constructor
      · rintro ⟨last, hrun⟩
        obtain ⟨result, middle, hfile, hrun⟩ := Action.bind_eq_ok hrun
        obtain ⟨more, _, hrest, hrun⟩ := Action.bind_eq_ok hrun
        obtain ⟨rfl, _⟩ := EStateM.Result.ok.inj hrun
        exact .cons (finds_of_gives hread hcompilers ⟨middle, hfile⟩) (ih.mp ⟨_, hrest⟩)
      · intro h
        cases h with
        | cons hfile hrest =>
            obtain ⟨middle, hfirst⟩ := hfile session
            obtain ⟨last, hmore⟩ := ih.mpr hrest
            exact Action.exists_bind_ok hfirst (Action.exists_bind_ok hmore ⟨last, rfl⟩)

/-- A run gives the results of its files and their total. -/
theorem run_gives_iff {files : List String} {session : Session σ} {report : Report} :
    (run read compilers files).Gives session report ↔
      ∃ results, List.Forall₂ (Finds read compilers) files results ∧
        report = .ofResults results := by
  constructor
  · rintro ⟨last, hrun⟩
    obtain ⟨results, _, hfiles, hrun⟩ := Action.bind_eq_ok hrun
    exact ⟨results, (analyzeFiles_gives_iff hread hcompilers).mp ⟨_, hfiles⟩,
      (EStateM.Result.ok.inj hrun).1.symm⟩
  · rintro ⟨results, hresults, rfl⟩
    obtain ⟨last, hfiles⟩ := (analyzeFiles_gives_iff hread hcompilers).mpr hresults
    exact Action.exists_bind_ok hfiles ⟨_, rfl⟩

end Stateless

/-! ## Results one by one -/

section Finds

variable {read : String → Action σ ρ String} {compilers : Compilers σ}

/-- Where there is a session a file has at most one result. -/
theorem rightUnique_finds (session : Session σ) :
    Relator.RightUnique (Finds read compilers) :=
  fun _ _ _ hfirst hsecond => (hfirst session).unique (hsecond session)

/-- The results of joined files are the joined results. -/
theorem finds_append_iff {files more : List String} {results : List FileResult} :
    List.Forall₂ (Finds read compilers) (files ++ more) results ↔
      ∃ first second, List.Forall₂ (Finds read compilers) files first ∧
        List.Forall₂ (Finds read compilers) more second ∧ results = first ++ second := by
  constructor
  · intro h
    exact ⟨_, _, (List.forall₂_take_append _ _ _ h.flip).flip,
      (List.forall₂_drop_append _ _ _ h.flip).flip, (List.take_append_drop _ _).symm⟩
  · rintro ⟨first, second, hfirst, hsecond, rfl⟩
    exact List.rel_append hfirst hsecond

/-- Files in another order have the same results in another order. -/
theorem exists_finds_perm {files others : List String} (hperm : files.Perm others)
    {results : List FileResult} (h : List.Forall₂ (Finds read compilers) files results) :
    ∃ reordered, List.Forall₂ (Finds read compilers) others reordered ∧
      reordered.Perm results :=
  List.perm_comp_forall₂ hperm.symm h

/-- The result at a place is that of the file at this place. -/
theorem rel_getElem? {files : List String} {results : List FileResult}
    (h : List.Forall₂ (Finds read compilers) files results) (place : Nat) :
    Option.Rel (Finds read compilers) files[place]? results[place]? := by
  induction h generalizing place with
  | nil => exact .none
  | cons hfile _ ih =>
      cases place with
      | zero => exact .some hfile
      | succ earlier => exact ih earlier

/-- The same file has the same result, in whatever corpus and at whatever
place. -/
theorem getElem?_eq_of_finds (session : Session σ) {files others : List String}
    {results found : List FileResult} (h : List.Forall₂ (Finds read compilers) files results)
    (hothers : List.Forall₂ (Finds read compilers) others found) {place elsewhere : Nat}
    (hfile : files[place]? = others[elsewhere]?) : results[place]? = found[elsewhere]? := by
  have hresult := rel_getElem? h place
  have hfound := rel_getElem? hothers elsewhere
  rw [hfile] at hresult
  generalize others[elsewhere]? = file at hresult hfound
  generalize results[place]? = first at hresult
  generalize found[elsewhere]? = second at hfound
  cases hresult with
  | none => cases hfound; rfl
  | some hfirst =>
      cases hfound with
      | some hsecond => exact congrArg some (rightUnique_finds session hfirst hsecond)

end Finds

/-! ## Whole runs -/

section Runs

variable {read : String → Action σ ρ String} {compilers : Compilers σ}
  (hread : ∀ file, (read file).Stateless) (hcompilers : compilers.Stateless)
include hread hcompilers

/-- If sources and compilers answer by what they are asked only, a run over two
lists of files succeeds exactly if both runs do, with the results of both and
their totals merged.  A run over the files in another order succeeds exactly if
the run does, with the same totals.  In any two runs, a file has the same result
wherever it stands. -/
theorem run_composes (session left right : Session σ) :
    (∀ files more : List String,
      ((∃ report, (run read compilers (files ++ more)).Gives session report) ↔
        (∃ report, (run read compilers files).Gives left report) ∧
          ∃ report, (run read compilers more).Gives right report) ∧
      ∀ first second, (run read compilers files).Gives left first →
        (run read compilers more).Gives right second →
          (run read compilers (files ++ more)).Gives session
            ⟨first.files ++ second.files, first.totals.merge second.totals⟩) ∧
    (∀ files others : List String, files.Perm others →
      ((∃ report, (run read compilers files).Gives left report) ↔
        ∃ report, (run read compilers others).Gives right report) ∧
      ∀ report reordered, (run read compilers files).Gives left report →
        (run read compilers others).Gives right reordered →
          reordered.files.Perm report.files ∧ reordered.totals = report.totals) ∧
    ∀ (files others : List String) (report other : Report),
      (run read compilers files).Gives left report →
      (run read compilers others).Gives right other →
        ∀ place elsewhere : Nat, files[place]? = others[elsewhere]? →
          report.files[place]? = other.files[elsewhere]? := by
  have hgives := @run_gives_iff σ ρ read compilers hread hcompilers
  refine ⟨fun files more => ⟨⟨?apart, ?together⟩, ?joined⟩,
    fun files others hperm => ⟨?succeeds, ?reordered⟩, ?places⟩
  case apart =>
    rintro ⟨report, hreport⟩
    obtain ⟨_, hresults, -⟩ := hgives.mp hreport
    obtain ⟨first, second, hfirst, hsecond, -⟩ := finds_append_iff.mp hresults
    exact ⟨⟨_, hgives.mpr ⟨first, hfirst, rfl⟩⟩, ⟨_, hgives.mpr ⟨second, hsecond, rfl⟩⟩⟩
  case together =>
    rintro ⟨⟨_, hleft⟩, ⟨_, hright⟩⟩
    obtain ⟨first, hfirst, -⟩ := hgives.mp hleft
    obtain ⟨second, hsecond, -⟩ := hgives.mp hright
    exact ⟨_, hgives.mpr ⟨_, finds_append_iff.mpr ⟨first, second, hfirst, hsecond, rfl⟩, rfl⟩⟩
  case joined =>
    intro _ _ hleft hright
    obtain ⟨first, hfirst, rfl⟩ := hgives.mp hleft
    obtain ⟨second, hsecond, rfl⟩ := hgives.mp hright
    refine hgives.mpr ⟨_, finds_append_iff.mpr ⟨first, second, hfirst, hsecond, rfl⟩, ?_⟩
    exact congrArg (Report.mk _) (totalOf_append first second).symm
  case succeeds =>
    have hsuccess {files others : List String} {session other : Session σ}
        (hperm : files.Perm others)
        (h : ∃ report, (run read compilers files).Gives session report) :
        ∃ report, (run read compilers others).Gives other report := by
      obtain ⟨_, hreport⟩ := h
      obtain ⟨results, hresults, -⟩ := hgives.mp hreport
      obtain ⟨reordered, hreordered, -⟩ := exists_finds_perm hperm hresults
      exact ⟨_, hgives.mpr ⟨reordered, hreordered, rfl⟩⟩
    exact ⟨hsuccess hperm, hsuccess hperm.symm⟩
  case reordered =>
    intro _ _ hleft hright
    obtain ⟨results, hresults, rfl⟩ := hgives.mp hleft
    obtain ⟨found, hfound, rfl⟩ := hgives.mp hright
    obtain ⟨reordered, hreordered, hsame⟩ := exists_finds_perm hperm hresults
    obtain rfl := List.right_unique_forall₂' (rightUnique_finds session) hreordered hfound
    exact ⟨hsame, totalOf_eq_of_perm (hsame.filterMap _)⟩
  case places =>
    intro files others _ _ hleft hright place elsewhere hfile
    obtain ⟨results, hresults, rfl⟩ := hgives.mp hleft
    obtain ⟨found, hfound, rfl⟩ := hgives.mp hright
    exact getElem?_eq_of_finds session hresults hfound hfile

end Runs

/-! ### Two files -/

/-- A compiled file and one that is not. -/
def twoResults : Report :=
  .ofResults [.compiled "a.sol" (.ofPairs [("SourceUnit", 1)]),
    .failed "b.sol" Compilers.notCompiled]

/-- The source of the first file is an answer of a legacy compiler. -/
def twoSources (file : String) : Except Unit String :=
  if file = "a.sol" then
    .ok (Json.object [("sources", .object [("", .object [("AST",
      .object [("name", .string "SourceUnit")])])])]).compact
  else if file = "b.sol" then .ok ""
  else .error ()

/-- Every compiler answers its input. -/
def echo (_ : Toolchain) (input : String) : Except CompilerError String := .ok input

/-- What is recorded is of no consequence for what is answered. -/
theorem stateless_of_leaves {ε α : Type} {action : Action Trace ε α} {result : Except ε α}
    {left : Trace} (h : Trace.Leaves action result left) : action.Stateless := by
  intro session other _
  cases result with
  | ok value =>
      obtain ⟨journal, hrun⟩ := Action.effect_eq_ok_iff.mp (h session)
      obtain ⟨journal', hother⟩ := Action.effect_eq_ok_iff.mp (h other)
      exact .inl ⟨value, _, _, hrun, hother, trivial⟩
  | error reason =>
      obtain ⟨journal, hrun⟩ := Action.effect_eq_error_iff.mp (h session)
      obtain ⟨journal', hother⟩ := Action.effect_eq_error_iff.mp (h other)
      exact .inr ⟨reason, reason, _, _, hrun, hother⟩

theorem gives_of_filesOutcome {files : List String} {results : List FileResult}
    (h : (filesOutcome twoSources echo files).1 = .ok results) (session : Session Trace) :
    (run (Trace.reading twoSources) (Trace.compilers echo) files).Gives session
      (.ofResults results) := by
  rw [Action.gives_iff_effect, leaves_run twoSources echo files session, h]
  rfl

/-- Two sources in both orders: the outcomes change places, the totals stay. -/
theorem run_composes_twoSources :
    (run (Trace.reading twoSources) (Trace.compilers echo) ["a.sol", "b.sol"]).Gives ⟨[], #[]⟩
        twoResults ∧
      ∃ reordered, (run (Trace.reading twoSources) (Trace.compilers echo)
          ["b.sol", "a.sol"]).Gives ⟨[], #[]⟩ reordered ∧
        reordered.files.Perm twoResults.files ∧ reordered.totals = twoResults.totals := by
  have hread (file : String) : (Trace.reading twoSources file).Stateless :=
    stateless_of_leaves (Trace.leaves_reading twoSources file)
  have hcompilers : (Trace.compilers echo).Stateless := fun toolchain input =>
    stateless_of_leaves (Trace.leaves_compilers echo toolchain input)
  obtain ⟨hjoined, hreordered, -⟩ := run_composes hread hcompilers ⟨[], #[]⟩ ⟨[], #[]⟩ ⟨[], #[]⟩
  have hfirst := gives_of_filesOutcome (show (filesOutcome twoSources echo ["a.sol"]).1 =
    .ok [.compiled "a.sol" (.ofPairs [("SourceUnit", 1)])] by decide +kernel) ⟨[], #[]⟩
  have hsecond := gives_of_filesOutcome (show (filesOutcome twoSources echo ["b.sol"]).1 =
    .ok [.failed "b.sol" Compilers.notCompiled] by decide +kernel) ⟨[], #[]⟩
  have hboth := (hjoined ["a.sol"] ["b.sol"]).2 _ _ hfirst hsecond
  obtain ⟨hsucceeds, hsame⟩ := hreordered ["a.sol", "b.sol"] ["b.sol", "a.sol"] (.swap _ _ [])
  obtain ⟨reordered, hrun⟩ := hsucceeds.mp ⟨_, hboth⟩
  exact ⟨hboth, reordered, hrun, hsame _ _ hboth hrun⟩

end Corpus
end SyntaxCensus
