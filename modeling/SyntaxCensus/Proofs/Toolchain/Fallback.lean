import SyntaxCensus.Proofs.Toolchain.Recording

/-!
# Which compiler answers for a file

The toolchains are asked in order.  The first one that fails ends the analysis
with its error, and the first one that answers a tree ends it with the
histogram of that tree; after it no compiler is called.

Main definitions:

- `Json.HoldsAt`: keys lead through objects from a value to another one.
- `Toolchain.Answers`: the text of an answer holds the tree of a file.
- `Compilers.fallback`: the outcome for a file, and the calls for it.

Main results:

- `Toolchain.tree?_eq_some_iff`: where the tree of an answer is.
- `Compilers.reply_cases`: a compiler fails, answers a tree, or answers none.
- `Compilers.leaves_analyzeBy`: what asking some toolchains gives and leaves.
- `Compilers.analyze_falls_back`: the legacy compiler is called exactly if the
  current one answers without a tree.
-/

namespace SyntaxCensus

/-! ## Trees in answers -/

namespace Json

/-- Keys lead through objects from a value to another one. -/
inductive HoldsAt : Json → List String → Json → Prop
  | here (value : Json) : HoldsAt value [] value
  | member {members : List (String × Json)} {key : String} {keys : List String}
      {inner value : Json} (bound : Keyed.lookup key members = some inner)
      (next : HoldsAt inner keys value) : HoldsAt (.object members) (key :: keys) value

/-- Only objects have members. -/
theorem member?_eq_some_iff {key : String} {value inner : Json} :
    value.member? key = some inner ↔
      ∃ members, value = .object members ∧ Keyed.lookup key members = some inner := by
  cases value with
  | object members => simp [member?]
  | null | bool _ | number _ | string _ | array _ => simp [member?]

/-- The first key leads to a member, the other ones lead on from it. -/
theorem holdsAt_cons_iff {value inner : Json} {key : String} {keys : List String} :
    HoldsAt value (key :: keys) inner ↔
      ∃ next, value.member? key = some next ∧ HoldsAt next keys inner := by
  constructor
  · intro h
    cases h with
    | member bound next => exact ⟨_, bound, next⟩
  · rintro ⟨next, hmember, hnext⟩
    obtain ⟨members, rfl, hbound⟩ := member?_eq_some_iff.mp hmember
    exact .member hbound hnext

theorem holdsAt_nil_iff {value inner : Json} : HoldsAt value [] inner ↔ value = inner := by
  constructor
  · intro h
    cases h
    rfl
  · rintro rfl
    exact .here value

end Json

namespace Toolchain

/-- The keys that lead to the tree of a file in an answer. -/
def treePath (file : String) : Toolchain → List String
  | .current => ["sources", file, "ast"]
  | .legacy => ["sources", "", "AST"]

/-- A document holds a tree for a file. -/
theorem tree?_eq_some_iff (toolchain : Toolchain) (file : String) (document tree : Json) :
    toolchain.tree? file document = some tree ↔
      document.HoldsAt (toolchain.treePath file) tree ∧ tree ≠ .null := by
  have hpath : toolchain.treePath file =
      ["sources", toolchain.sourceKey file, toolchain.treeKey] := by
    cases toolchain <;> rfl
  rw [hpath]
  simp only [Json.holdsAt_cons_iff, Json.holdsAt_nil_iff, tree?]
  cases hsources : document.member? "sources" with
  | none => simp
  | some sources =>
      cases hresults : sources.member? (toolchain.sourceKey file) with
      | none => simp [hresults]
      | some results =>
          cases hfound : results.member? toolchain.treeKey with
          | none => simp [hresults, hfound]
          | some found =>
              cases found with
              | null => simpa [hresults, hfound] using Eq.symm
              | bool _ | number _ | string _ | array _ | object _ =>
                  simp only [Option.bind_some, hresults, hfound, Option.some.injEq,
                    exists_eq_left']
                  constructor
                  · rintro rfl
                    exact ⟨rfl, by simp⟩
                  · exact And.left

/-- The text of an answer is a document with a tree for a file. -/
def Answers (toolchain : Toolchain) (file text : String) (tree : Json) : Prop :=
  ∃ document, Json.parse text = .ok document ∧
    document.HoldsAt (toolchain.treePath file) tree ∧ tree ≠ .null

/-- The tree for a file in the text of an answer. -/
def treeIn? (toolchain : Toolchain) (file text : String) : Option Json :=
  match Json.parse text with
  | .error _ => none
  | .ok document => toolchain.tree? file document

/-- The tree that is looked for is the one that a text answers. -/
theorem treeIn?_eq_some_iff (toolchain : Toolchain) (file text : String) (tree : Json) :
    toolchain.treeIn? file text = some tree ↔ toolchain.Answers file text tree := by
  unfold treeIn? Answers
  cases Json.parse text with
  | error reason => simp
  | ok document => simp [tree?_eq_some_iff]

/-- A text without a tree answers none. -/
theorem treeIn?_eq_none_iff (toolchain : Toolchain) (file text : String) :
    toolchain.treeIn? file text = none ↔ ∀ tree, ¬ toolchain.Answers file text tree := by
  simp only [Option.eq_none_iff_forall_ne_some, ne_eq, treeIn?_eq_some_iff]

end Toolchain

/-! ## Asking compilers -/

namespace Compilers

/-- The outcome for a file by some toolchains, and the calls for it. -/
def fallback (reply : Toolchain → String → Except CompilerError String) (file source : String) :
    List Toolchain → Except CompilerError FileResult × List Call
  | [] => (.ok (.failed file notCompiled), [])
  | toolchain :: rest =>
      let input := toolchain.request file source
      match reply toolchain input with
      | .error cause => (.error cause, [⟨toolchain, input⟩])
      | .ok text =>
          match toolchain.treeIn? file text with
          | some tree =>
              (.ok (.compiled file (.ofTree toolchain.marker tree)), [⟨toolchain, input⟩])
          | none =>
              let later := fallback reply file source rest
              (later.1, ⟨toolchain, input⟩ :: later.2)

variable (reply : Toolchain → String → Except CompilerError String) (file source : String)

/-- A compiler fails, or it answers a tree, or it answers none. -/
theorem reply_cases (toolchain : Toolchain) :
    (∃ cause, reply toolchain (toolchain.request file source) = .error cause) ∨
      (∃ text tree, reply toolchain (toolchain.request file source) = .ok text ∧
        toolchain.Answers file text tree) ∨
      ∃ text, reply toolchain (toolchain.request file source) = .ok text ∧
        ∀ tree, ¬ toolchain.Answers file text tree := by
  cases hreply : reply toolchain (toolchain.request file source) with
  | error cause => exact .inl ⟨cause, rfl⟩
  | ok text =>
      by_cases h : ∃ tree, toolchain.Answers file text tree
      · obtain ⟨tree, hanswers⟩ := h
        exact .inr (.inl ⟨text, tree, rfl, hanswers⟩)
      · exact .inr (.inr ⟨text, rfl, not_exists.mp h⟩)

section Steps

variable {reply file source} {toolchain : Toolchain} {text : String}

/-- A compiler that fails ends it, after its own call. -/
theorem fallback_of_error {cause : CompilerError}
    (hreply : reply toolchain (toolchain.request file source) = .error cause)
    (rest : List Toolchain) :
    fallback reply file source (toolchain :: rest) =
      (.error cause, [⟨toolchain, toolchain.request file source⟩]) := by
  simp only [fallback, hreply]

/-- A tree ends it: the toolchains that are left are not called. -/
theorem fallback_of_answers {tree : Json}
    (hreply : reply toolchain (toolchain.request file source) = .ok text)
    (hanswers : toolchain.Answers file text tree) (rest : List Toolchain) :
    fallback reply file source (toolchain :: rest) =
      (.ok (.compiled file (.ofTree toolchain.marker tree)),
        [⟨toolchain, toolchain.request file source⟩]) := by
  have htree := (toolchain.treeIn?_eq_some_iff file text tree).mpr hanswers
  simp only [fallback, hreply, htree]

/-- Without a tree the next toolchain is called after this one. -/
theorem fallback_of_lacks
    (hreply : reply toolchain (toolchain.request file source) = .ok text)
    (hlacks : ∀ tree, ¬ toolchain.Answers file text tree) (rest : List Toolchain) :
    fallback reply file source (toolchain :: rest) =
      ((fallback reply file source rest).1,
        ⟨toolchain, toolchain.request file source⟩ :: (fallback reply file source rest).2) := by
  have htree := (toolchain.treeIn?_eq_none_iff file text).mpr hlacks
  simp only [fallback, hreply, htree]

end Steps

/-- Asking one toolchain gives its histogram, if it answers a tree, and leaves
one call. -/
theorem leaves_tryToolchain (toolchain : Toolchain) :
    Trace.Leaves ((Trace.compilers reply).tryToolchain toolchain file source)
      ((reply toolchain (toolchain.request file source)).map fun text =>
        (toolchain.treeIn? file text).map (Histogram.ofTree toolchain.marker))
      (.ofCalls [⟨toolchain, toolchain.request file source⟩]) := by
  have hcall := Trace.leaves_compilers reply toolchain (toolchain.request file source)
  unfold tryToolchain
  cases hreply : reply toolchain (toolchain.request file source) with
  | error cause =>
      rw [hreply] at hcall
      exact hcall.bind_error
  | ok text =>
      rw [hreply] at hcall
      refine hcall.bind_silent ?_
      cases hparse : Json.parse text with
      | error reason =>
          simp only [Except.map, Toolchain.treeIn?, hparse]
          exact .log_bind _ _ _ (Trace.leaves_pure none)
      | ok document =>
          simp only [Except.map, Toolchain.treeIn?, hparse]
          exact Trace.leaves_pure _

/-- Asking some toolchains gives the outcome of the fallback and leaves its
calls. -/
theorem leaves_analyzeBy (toolchains : List Toolchain) :
    Trace.Leaves ((Trace.compilers reply).analyzeBy file source toolchains)
      (fallback reply file source toolchains).1
      (.ofCalls (fallback reply file source toolchains).2) := by
  induction toolchains with
  | nil => exact .log_bind _ _ _ (Trace.leaves_pure _)
  | cons toolchain rest ih =>
      have htry := leaves_tryToolchain reply file source toolchain
      rcases reply_cases reply file source toolchain with
        ⟨cause, hreply⟩ | ⟨text, tree, hreply, hanswers⟩ | ⟨text, hreply, hlacks⟩
      · rw [hreply] at htry
        rw [fallback_of_error hreply]
        exact htry.bind_error
      · have htree := (toolchain.treeIn?_eq_some_iff file text tree).mpr hanswers
        simp only [hreply, Except.map, htree, Option.map_some] at htry
        rw [fallback_of_answers hreply hanswers]
        exact htry.bind_silent (.log_bind _ _ _ (Trace.leaves_pure _))
      · have htree := (toolchain.treeIn?_eq_none_iff file text).mpr hlacks
        simp only [hreply, Except.map, htree, Option.map_none] at htry
        rw [fallback_of_lacks hreply hlacks, Trace.ofCalls_cons]
        refine htry.bind_ok ?_
        exact .log_bind _ _ _ ih

/-- The last toolchain is called once. -/
theorem fallback_calls_singleton (toolchain : Toolchain) :
    (fallback reply file source [toolchain]).2 =
      [⟨toolchain, toolchain.request file source⟩] := by
  rcases reply_cases reply file source toolchain with
    ⟨cause, hreply⟩ | ⟨text, tree, hreply, hanswers⟩ | ⟨text, hreply, hlacks⟩
  · rw [fallback_of_error hreply]
  · rw [fallback_of_answers hreply hanswers]
  · rw [fallback_of_lacks hreply hlacks]
    rfl

variable {reply file source}

/-- The result for a file carries the name of the file. -/
theorem file_of_fallback {toolchains : List Toolchain} {result : FileResult}
    (h : (fallback reply file source toolchains).1 = .ok result) : result.file = file := by
  induction toolchains with
  | nil =>
      obtain rfl := Except.ok.inj h
      rfl
  | cons toolchain rest ih =>
      rcases reply_cases reply file source toolchain with
        ⟨cause, hreply⟩ | ⟨text, tree, hreply, hanswers⟩ | ⟨text, hreply, hlacks⟩
      · rw [fallback_of_error hreply] at h
        cases h
      · rw [fallback_of_answers hreply hanswers] at h
        obtain rfl := Except.ok.inj h
        rfl
      · rw [fallback_of_lacks hreply hlacks] at h
        exact ih h

/-- A compiler that fails is the last one that is called. -/
theorem last_call_of_fallback {toolchains : List Toolchain} {cause : CompilerError}
    (h : (fallback reply file source toolchains).1 = .error cause) :
    ∃ earlier call, (fallback reply file source toolchains).2 = earlier ++ [call] ∧
      reply call.toolchain call.input = .error cause := by
  induction toolchains with
  | nil => cases h
  | cons toolchain rest ih =>
      rcases reply_cases reply file source toolchain with
        ⟨cause', hreply⟩ | ⟨text, tree, hreply, hanswers⟩ | ⟨text, hreply, hlacks⟩
      · rw [fallback_of_error hreply] at h ⊢
        obtain rfl := Except.error.inj h
        exact ⟨[], _, rfl, hreply⟩
      · rw [fallback_of_answers hreply hanswers] at h
        cases h
      · rw [fallback_of_lacks hreply hlacks] at h ⊢
        obtain ⟨earlier, call, hcalls, hlast⟩ := ih h
        exact ⟨_ :: earlier, call, congrArg _ hcalls, hlast⟩

variable (reply file source)

/-- The current compiler answers, but without a tree for the file. -/
def FallsBack : Prop :=
  ∃ text, reply .current (Toolchain.current.request file source) = .ok text ∧
    ∀ tree, ¬ Toolchain.current.Answers file text tree

/-- The current compiler is called first and once, with the request for the
file.  The legacy one is called, once and with the bare source, exactly if the
answer of the current one has no tree for the file.  An error ends the analysis;
else the outcome is the histogram of the first tree, or a failure if neither
answer has one. -/
theorem analyze_falls_back (session : Session Trace) :
    ∃ (answer : Except CompilerError FileResult) (calls : List Call),
      ((Trace.compilers reply).analyze file source).effect session =
          (answer, session.state ++ Trace.ofCalls calls) ∧
        (FallsBack reply file source →
          calls = [⟨.current, Toolchain.current.request file source⟩, ⟨.legacy, source⟩]) ∧
        (¬ FallsBack reply file source →
          calls = [⟨.current, Toolchain.current.request file source⟩]) ∧
        (∀ cause, reply .current (Toolchain.current.request file source) = .error cause →
          answer = .error cause) ∧
        (∀ text tree, reply .current (Toolchain.current.request file source) = .ok text →
          Toolchain.current.Answers file text tree →
          answer = .ok (.compiled file (.ofTree "nodeType" tree))) ∧
        (∀ cause, FallsBack reply file source → reply .legacy source = .error cause →
          answer = .error cause) ∧
        (∀ text tree, FallsBack reply file source → reply .legacy source = .ok text →
          Toolchain.legacy.Answers file text tree →
          answer = .ok (.compiled file (.ofTree "name" tree))) ∧
        (∀ text, FallsBack reply file source → reply .legacy source = .ok text →
          (∀ tree, ¬ Toolchain.legacy.Answers file text tree) →
          answer = .ok (.failed file "not compiled")) := by
  refine ⟨_, _, leaves_analyzeBy reply file source Toolchain.priority session,
    ?both, ?once, ?error, ?tree, ?legacyError, ?legacyTree, ?neither⟩
  case both =>
    rintro ⟨text, hreply, hlacks⟩
    rw [Toolchain.priority, fallback_of_lacks hreply hlacks, fallback_calls_singleton]
    rfl
  case once =>
    intro hnot
    rw [Toolchain.priority]
    rcases reply_cases reply file source .current with
      ⟨cause, hreply⟩ | ⟨text, tree, hreply, hanswers⟩ | ⟨text, hreply, hlacks⟩
    · rw [fallback_of_error hreply]
    · rw [fallback_of_answers hreply hanswers]
    · exact absurd ⟨text, hreply, hlacks⟩ hnot
  case error =>
    intro cause hreply
    rw [Toolchain.priority, fallback_of_error hreply]
  case tree =>
    intro text tree hreply hanswers
    rw [Toolchain.priority, fallback_of_answers hreply hanswers]
    rfl
  case legacyError =>
    rintro cause ⟨_, hreply, hlacks⟩ hlegacy
    rw [Toolchain.priority, fallback_of_lacks hreply hlacks, fallback_of_error hlegacy]
  case legacyTree =>
    rintro text tree ⟨_, hreply, hlacks⟩ hlegacy hanswers
    rw [Toolchain.priority, fallback_of_lacks hreply hlacks, fallback_of_answers hlegacy hanswers]
    rfl
  case neither =>
    rintro text ⟨_, hreply, hlacks⟩ hlegacy hnone
    rw [Toolchain.priority, fallback_of_lacks hreply hlacks, fallback_of_lacks hlegacy hnone]
    rfl

end Compilers
end SyntaxCensus
