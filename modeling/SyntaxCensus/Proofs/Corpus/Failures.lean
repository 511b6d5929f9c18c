import SyntaxCensus.Proofs.Corpus.Agreement
import SyntaxCensus.Proofs.Journal.Changes
import SyntaxCensus.Proofs.Toolchain.Programs

/-!
# What makes a run fail

A run fails at the first source that cannot be read or compiler that cannot be
run, and for no other reason.

Main definitions:

- `Compilers.Blind`: compilers that do not look at what was told.
- `Compilers.Changes`: what a call of a compiler changes.
- `Compilers.FailsOn`: some toolchains fail on a source.
- `Corpus.Breaks`: a run over some files comes to a failure.

Main results:

- `Compilers.fails_analyzeBy_iff`, `Corpus.fails_run_iff`: when analyses fail.
- `Compilers.within_of`: what calls of compilers change.
-/

namespace SyntaxCensus

variable {σ ρ : Type}

/-! ## One source -/

namespace Compilers

/-- Compilers that do not look at what was told before. -/
def Blind (compilers : Compilers σ) : Prop :=
  compilers.Agree (· = ·) compilers

/-- A call of a compiler leaves a state, whether it succeeds or not. -/
def Changes (compilers : Compilers σ) (before after : σ) : Prop :=
  ∃ toolchain input journal,
    after = ((compilers.of toolchain input).after ⟨before, journal⟩).state

/-- From a state the toolchains come to a compiler that fails: the ones before it
answer without a tree. -/
inductive FailsOn (compilers : Compilers σ) (file source : String) : List Toolchain → σ → Prop
  | here {toolchain : Toolchain} {rest : List Toolchain} {state : σ}
      (failed : Action.Fails (compilers.of toolchain (toolchain.request file source)) state) :
      FailsOn compilers file source (toolchain :: rest) state
  | later {toolchain : Toolchain} {rest : List Toolchain} {state next : σ} {answer : String}
      (answered : Action.Leads (compilers.of toolchain (toolchain.request file source)) state
        answer next)
      (treeless : toolchain.treeIn? file answer = none)
      (failed : FailsOn compilers file source rest next) :
      FailsOn compilers file source (toolchain :: rest) state

variable {compilers : Compilers σ} {file source : String} {state : σ}

/-- Trying a toolchain fails if its compiler does. -/
theorem fails_tryToolchain_iff {toolchain : Toolchain} :
    Action.Fails (compilers.tryToolchain toolchain file source) state ↔
      Action.Fails (compilers.of toolchain (toolchain.request file source)) state := by
  constructor
  · intro h
    by_contra hnot
    obtain ⟨answer, next, hanswer⟩ := Action.not_fails_iff.mp hnot
    exact Action.not_fails_iff.mpr ⟨_, next, effect_tryToolchain hanswer⟩ h
  · exact fun h => h.bind _

/-- What a toolchain that was tried finds is in the answer of its compiler. -/
theorem leads_tryToolchain_iff {toolchain : Toolchain} {found : Option Histogram} {next : σ} :
    Action.Leads (compilers.tryToolchain toolchain file source) state found next ↔
      ∃ answer, Action.Leads (compilers.of toolchain (toolchain.request file source)) state
          answer next ∧
        found = (toolchain.treeIn? file answer).map (Histogram.ofTree toolchain.marker) := by
  constructor
  · intro h
    obtain ⟨answer, middle, hanswer⟩ := Action.not_fails_iff.mp
      (mt fails_tryToolchain_iff.mpr (Action.not_fails_iff.mpr ⟨found, next, h⟩))
    obtain ⟨hfound, rfl⟩ := Prod.mk.inj (h.symm.trans (effect_tryToolchain hanswer))
    exact ⟨answer, hanswer, Except.ok.inj hfound⟩
  · rintro ⟨answer, hanswer, rfl⟩
    exact effect_tryToolchain hanswer

/-- Analyzing a source looks at what was told no more than its compilers do. -/
theorem Blind.analyzeBy (h : compilers.Blind) (file source : String)
    (toolchains : List Toolchain) : (compilers.analyzeBy file source toolchains).Blind :=
  Agree.analyzeBy h file source toolchains

/-- Toolchains fail on a source exactly if they come to a compiler that fails. -/
theorem fails_analyzeBy_iff (h : compilers.Blind) (toolchains : List Toolchain) :
    Action.Fails (compilers.analyzeBy file source toolchains) state ↔
      compilers.FailsOn file source toolchains state := by
  induction toolchains generalizing state with
  | nil =>
      constructor
      · exact fun hfails => absurd hfails (Action.not_fails_iff.mpr ⟨_, state, rfl⟩)
      · exact nofun
  | cons toolchain rest ih =>
      have hrest := h.analyzeBy file source rest
      have htold (severity : Severity) (component : Component) (message : String) :
          Action.Agree (· = ·)
            (do Action.log severity component message; compilers.analyzeBy file source rest)
            (compilers.analyzeBy file source rest) :=
        .log_bind _ _ _ hrest
      unfold analyzeBy
      rw [Action.fails_bind_iff ?blind, fails_tryToolchain_iff]
      case blind =>
        intro found
        cases found with
        | none => exact Action.Blind.log_bind _ _ _ hrest
        | some histogram => exact Action.Blind.log_bind _ _ _ (Action.agree_pure _)
      constructor
      · rintro (hfails | ⟨found, middle, hfound, hfails⟩)
        · exact .here hfails
        · obtain ⟨answer, hanswer, rfl⟩ := leads_tryToolchain_iff.mp hfound
          cases htree : toolchain.treeIn? file answer with
          | some tree =>
              rw [htree] at hfails
              exact absurd hfails (Action.not_fails_iff.mpr ⟨_, middle, rfl⟩)
          | none =>
              rw [htree] at hfails
              exact .later hanswer htree
                (ih.mp ((htold _ _ _).fails_iff.mp hfails))
      · intro hfails
        cases hfails with
        | here failed => exact .inl failed
        | later answered treeless failed =>
            have hfound := leads_tryToolchain_iff.mpr ⟨_, answered, rfl⟩
            rw [treeless] at hfound
            exact .inr ⟨none, _, hfound,
              (htold _ _ _).fails_iff.mpr (ih.mpr failed)⟩

/-- A call changes what compilers change. -/
theorem within_of (compilers : Compilers σ) (toolchain : Toolchain) (input : String) :
    Action.Within compilers.Changes (compilers.of toolchain input) :=
  Action.within_of_step fun session => ⟨toolchain, input, session.journal, rfl⟩

end Compilers

/-! ## All files -/

namespace Corpus

variable {read : String → Action σ ρ String} {compilers : Compilers σ}

/-- From a state a run over some files comes to a file that cannot be read, or to
a source for which a compiler fails. -/
inductive Breaks (read : String → Action σ ρ String) (compilers : Compilers σ) :
    List String → σ → Prop
  | unread {file : String} {rest : List String} {state : σ}
      (failed : (read file).Fails state) : Breaks read compilers (file :: rest) state
  | uncompiled {file source : String} {rest : List String} {state opened : σ}
      (text : (read file).Leads state source opened)
      (failed : compilers.FailsOn file source Toolchain.priority opened) :
      Breaks read compilers (file :: rest) state
  | later {file : String} {rest : List String} {state next : σ} {result : FileResult}
      (done : (analyzeFile read compilers file).Leads state result next)
      (failed : Breaks read compilers rest next) : Breaks read compilers (file :: rest) state

section Blind

variable (hread : ∀ file, (read file).Blind) (hcompilers : compilers.Blind)
include hread hcompilers

/-- A file fails if it cannot be read, or a compiler fails on its source. -/
theorem fails_analyzeFile_iff {file : String} {state : σ} :
    (analyzeFile read compilers file).Fails state ↔
      (read file).Fails state ∨ ∃ source opened, (read file).Leads state source opened ∧
        compilers.FailsOn file source Toolchain.priority opened := by
  have hanalyze (source : String) :
      ((compilers.analyze file source).mapError (CorpusError.uncompiled (ρ := ρ) file)).Blind :=
    (hcompilers.analyzeBy file source Toolchain.priority).mapError _
  have hboth := ((hread file).mapError (CorpusError.unread file)).bind hanalyze
  have htold : Action.Agree (· = ·) (analyzeFile read compilers file) _ := .log_bind _ _ _ hboth
  rw [htold.fails_iff, Action.fails_bind_iff hanalyze, Action.fails_mapError_iff]
  simp only [Action.leads_mapError_iff, Action.fails_mapError_iff, Compilers.analyze,
    Compilers.fails_analyzeBy_iff hcompilers]

/-- Files fail exactly if a run over them comes to a failure. -/
theorem fails_analyzeFiles_iff {files : List String} {state : σ} :
    (analyzeFiles read compilers files).Fails state ↔ Breaks read compilers files state := by
  induction files generalizing state with
  | nil => exact ⟨fun hfails => absurd hfails (Action.not_fails_pure []), nofun⟩
  | cons file rest ih =>
      have hrest : (analyzeFiles read compilers rest).Blind :=
        agree_analyzeFiles (fun other _ => hread other) hcompilers
      have hmore (result : FileResult) :
          (do return result :: (← analyzeFiles read compilers rest) :
            Action σ (CorpusError ρ) (List FileResult)).Blind :=
        hrest.bind fun _ => Action.agree_pure _
      unfold analyzeFiles
      simp only [Action.fails_bind_iff hmore, fails_analyzeFile_iff hread hcompilers,
        Action.fails_bind_iff fun _ => Action.agree_pure _, ih, Action.not_fails_pure]
      constructor
      · rintro ((hfile | ⟨source, opened, htext, hfails⟩) | ⟨result, next, hdone, hfails⟩)
        · exact .unread hfile
        · exact .uncompiled htext hfails
        · rcases hfails with hfails | ⟨_, _, _, hfalse⟩
          · exact .later hdone hfails
          · exact hfalse.elim
      · intro hfails
        cases hfails with
        | unread failed => exact .inl (.inl failed)
        | uncompiled text failed => exact .inl (.inr ⟨_, _, text, failed⟩)
        | later done failed => exact .inr ⟨_, _, done, .inl failed⟩

/-- A run fails exactly if it comes to a failure. -/
theorem fails_run_iff {files : List String} {state : σ} :
    (run read compilers files).Fails state ↔ Breaks read compilers files state := by
  have htotals (results : List FileResult) :
      (do return ⟨results, ← totals results⟩ : Action σ (CorpusError ρ) Report).Blind := by
    have hsum : (totals results : Action σ (CorpusError ρ) Histogram).Blind :=
      compositional_totals Action.compositional_agree results
    exact hsum.bind fun sum => Action.agree_pure (Report.mk results sum)
  unfold run
  rw [Action.fails_bind_iff htotals, fails_analyzeFiles_iff hread hcompilers]
  refine or_iff_left ?_
  rintro ⟨results, middle, -, hfails⟩
  exact absurd hfails (Action.not_fails_iff.mpr ⟨.ofResults results, middle, rfl⟩)

end Blind

end Corpus
end SyntaxCensus
