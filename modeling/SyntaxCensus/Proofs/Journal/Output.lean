import SyntaxCensus.Proofs.Journal.Effect

/-!
# What actions print

Standard output only grows.  Many actions leave it as it is, whatever they do
to the state; others print the same lines whenever they start from a state, and
the lines of a longer action are those of its steps in a row.

Main definitions:

- `Action.Silent`: an action prints nothing.
- `Action.Prints`: from a state, an action gives a value and prints lines.

Main results:

- `Action.compositional_silent`: longer actions are silent if their steps are.
- `Action.Prints.bind`: one step after another.
- `Action.Silent.prints`: a silent action whose effect is known.
-/

namespace SyntaxCensus

/-! ## Texts of a journal -/

namespace Journal

/-- Lines as they are printed. -/
def ofLines (lines : List String) : String :=
  String.join (lines.map (· ++ "\n"))

theorem ofLines_append (first second : List String) :
    ofLines (first ++ second) = ofLines first ++ ofLines second := by
  rw [ofLines, List.map_append, String.join_append]
  rfl

theorem ofLines_singleton (line : String) : ofLines [line] = line ++ "\n" := by
  simp [ofLines]

/-- A record of the log is no part of standard output. -/
theorem standardOutput_push_log (journal : Journal) (record : Record) :
    standardOutput (journal.push (.log record)) = standardOutput journal := by
  simp [standardOutput]

theorem standardOutput_push_diagnostic (journal : Journal) (text : String) :
    standardOutput (journal.push (.diagnostic text)) = standardOutput journal := by
  simp [standardOutput]

/-- What is printed is put at the end. -/
theorem standardOutput_push_output (journal : Journal) (text : String) :
    standardOutput (journal.push (.output text)) = standardOutput journal ++ text := by
  simp [standardOutput, String.join_append]

end Journal

namespace Action

variable {σ ε α β : Type}

/-! ## Silent actions -/

/-- The session after an action, with its result or its error. -/
def after (action : Action σ ε α) (session : Session σ) : Session σ :=
  match action session with
  | .ok _ after => after
  | .error _ after => after

theorem start_snd (action : Action σ ε α) (state : σ) :
    (action.start state).2 = action.after ⟨state, #[]⟩ := by
  unfold start after EStateM.run
  cases action ⟨state, #[]⟩ <;> rfl

/-- After a step that succeeds there is what the next one leaves. -/
theorem after_bind_of_ok {first : Action σ ε α} {session middle : Session σ} {value : α}
    (h : first session = .ok value middle) (next : α → Action σ ε β) :
    (first >>= next).after session = (next value).after middle := by
  rw [after, bind_of_ok h, after]

/-- After a step that fails there is nothing more. -/
theorem after_bind_of_error {first : Action σ ε α} {session last : Session σ} {reason : ε}
    (h : first session = .error reason last) (next : α → Action σ ε β) :
    (first >>= next).after session = first.after session := by
  rw [after, bind_of_error h, after, h]

/-- After a sequence there is what its first step leaves, or what the next step
leaves after that. -/
theorem after_bind_cases (first : Action σ ε α) (next : α → Action σ ε β)
    (session : Session σ) :
    (first >>= next).after session = first.after session ∨
      ∃ value, (first >>= next).after session = (next value).after (first.after session) := by
  cases h : first session with
  | ok value middle =>
      have hfirst : first.after session = middle := by rw [after, h]
      exact .inr ⟨value, by rw [after_bind_of_ok h, hfirst]⟩
  | error reason last => exact .inl (after_bind_of_error h next)

/-- Errors in other words leave the same. -/
theorem after_mapError {ε' : Type} (action : Action σ ε α) (f : ε → ε') (session : Session σ) :
    (action.mapError f).after session = action.after session := by
  unfold after mapError
  cases action session <;> rfl

/-- An action prints nothing, also if it fails. -/
def Silent (action : Action σ ε α) : Prop :=
  ∀ session, (action.after session).journal.standardOutput = session.journal.standardOutput

theorem silent_pure (result : α) : Silent (pure result : Action σ ε α) :=
  fun _ => rfl

theorem silent_throw (reason : ε) : Silent (throw reason : Action σ ε α) :=
  fun _ => rfl

theorem silent_get : Silent (get : Action σ ε (Session σ)) :=
  fun _ => rfl

theorem silent_ofExcept (result : Except ε α) : Silent (ofExcept result : Action σ ε α) := by
  cases result with
  | error reason => exact silent_throw reason
  | ok value => exact silent_pure value

theorem silent_log (severity : Severity) (component : Component) (message : String) :
    Silent (log severity component message : Action σ ε Unit) :=
  fun session => session.journal.standardOutput_push_log _

theorem silent_onState (step : σ → Except ε α × σ) : Silent (onState step) := by
  intro session
  simp only [after, onState]
  cases step session.state with
  | mk result state => cases result <;> rfl

namespace Silent

/-- A silent action that succeeds leaves standard output as it was. -/
theorem output_eq {action : Action σ ε α} (h : Silent action) {session last : Session σ}
    {value : α} (hrun : action session = .ok value last) :
    last.journal.standardOutput = session.journal.standardOutput := by
  have hsame := h session
  rwa [after, hrun] at hsame

/-- One step after another. -/
theorem bind {first : Action σ ε α} {next : α → Action σ ε β} (hfirst : Silent first)
    (hnext : ∀ value, Silent (next value)) : Silent (first >>= next) := by
  intro session
  rcases after_bind_cases first next session with hsame | ⟨value, hlater⟩
  · rw [hsame, hfirst session]
  · rw [hlater, hnext value, hfirst session]

/-- Logging before a step prints nothing more. -/
theorem log_bind {next : Unit → Action σ ε α} (severity : Severity) (component : Component)
    (message : String) (hnext : Silent (next ())) :
    Silent (log severity component message >>= next) :=
  (silent_log severity component message).bind fun _ => hnext

/-- Errors in other words print nothing more. -/
theorem mapError {ε' : Type} {action : Action σ ε α} (h : Silent action) (f : ε → ε') :
    Silent (action.mapError f) := by
  intro session
  rw [after_mapError, h session]

end Silent

/-- Silence is carried from steps to what they make up. -/
theorem compositional_silent :
    Compositional (σ := σ) (τ := σ) fun first _ => Silent first where
  pure := silent_pure
  log := silent_log
  bind := Silent.bind
  mapError h f _ := h.mapError f

/-! ## Actions that print lines -/

/-- From a state, and whatever was told before, an action gives a value, keeps
the state and prints lines. -/
def Prints (state : σ) (action : Action σ ε α) (value : α) (lines : List String) : Prop :=
  ∀ journal : Journal, ∃ told : Journal, action ⟨state, journal⟩ = .ok value ⟨state, told⟩ ∧
    told.standardOutput = journal.standardOutput ++ Journal.ofLines lines

variable {state : σ}

theorem prints_pure (value : α) : Prints state (pure value : Action σ ε α) value [] :=
  fun journal => ⟨journal, rfl, String.append_empty.symm⟩

theorem prints_printLine (line : String) :
    Prints state (printLine line : Action σ ε Unit) () [line] := by
  intro journal
  refine ⟨_, rfl, ?_⟩
  rw [Journal.ofLines_singleton]
  exact journal.standardOutput_push_output _

theorem prints_log (severity : Severity) (component : Component) (message : String) :
    Prints state (log severity component message : Action σ ε Unit) () [] :=
  fun journal => ⟨_, rfl,
    (journal.standardOutput_push_log _).trans String.append_empty.symm⟩

/-- Lines of the diagnostic output are not printed. -/
theorem prints_diagnosticLine (line : String) :
    Prints state (diagnosticLine line : Action σ ε Unit) () [] :=
  fun journal => ⟨_, rfl,
    (journal.standardOutput_push_diagnostic _).trans String.append_empty.symm⟩

/-- A step that keeps the state it starts from prints nothing. -/
theorem prints_onState {step : σ → Except ε α × σ} {value : α}
    (h : step state = (.ok value, state)) : Prints state (onState step) value [] := by
  intro journal
  refine ⟨journal, ?_, String.append_empty.symm⟩
  simp only [onState, h]

/-- A silent action that gives a value from a state and keeps the state. -/
theorem Silent.prints {action : Action σ ε α} (h : Silent action) {value : α}
    (heffect : ∀ journal, action.effect ⟨state, journal⟩ = (.ok value, state)) :
    Prints state action value [] := by
  intro journal
  obtain ⟨told, hrun⟩ := effect_eq_ok_iff.mp (heffect journal)
  exact ⟨told, hrun, (h.output_eq hrun).trans String.append_empty.symm⟩

namespace Prints

/-- One step after another prints the lines of both. -/
theorem bind {first : Action σ ε α} {next : α → Action σ ε β} {value : α} {result : β}
    {lines more : List String} (hfirst : Prints state first value lines)
    (hnext : Prints state (next value) result more) :
    Prints state (first >>= next) result (lines ++ more) := by
  intro journal
  obtain ⟨middle, hstep, hlines⟩ := hfirst journal
  obtain ⟨told, hrest, hmore⟩ := hnext middle
  refine ⟨told, (bind_of_ok hstep next).trans hrest, ?_⟩
  rw [hmore, hlines, Journal.ofLines_append, String.append_assoc]

/-- A step that looks at the session first. -/
theorem get_bind {next : Session σ → Action σ ε β} {result : β} {lines : List String}
    (hnext : ∀ journal, Prints state (next ⟨state, journal⟩) result lines) :
    Prints state (get >>= next) result lines :=
  fun journal => hnext journal journal

/-- A step that prints nothing before another one. -/
theorem silent_bind {first : Action σ ε α} {next : α → Action σ ε β} {value : α} {result : β}
    {lines : List String} (hfirst : Prints state first value [])
    (hnext : Prints state (next value) result lines) :
    Prints state (first >>= next) result lines :=
  hfirst.bind hnext

/-- Logging before a step. -/
theorem log_bind {next : Unit → Action σ ε β} {result : β} {lines : List String}
    (severity : Severity) (component : Component) (message : String)
    (hnext : Prints state (next ()) result lines) :
    Prints state (log severity component message >>= next) result lines :=
  (prints_log severity component message).silent_bind hnext

/-- A line on the diagnostic output before a step. -/
theorem diagnostic_bind (line : String) {next : Unit → Action σ ε β} {result : β}
    {lines : List String} (hnext : Prints state (next ()) result lines) :
    Prints state (diagnosticLine line >>= next) result lines :=
  (prints_diagnosticLine line).silent_bind hnext

/-- A line before the lines of the next step. -/
theorem line_bind (line : String) {next : Unit → Action σ ε β} {result : β}
    {more : List String} (hnext : Prints state (next ()) result more) :
    Prints state (printLine line >>= next) result (line :: more) :=
  (prints_printLine line).bind hnext

/-- An action that succeeds prints the same with its errors in other words. -/
theorem mapError {ε' : Type} {action : Action σ ε α} {value : α} {lines : List String}
    (h : Prints state action value lines) (f : ε → ε') :
    Prints state (action.mapError f) value lines := by
  intro journal
  obtain ⟨told, hrun, hlines⟩ := h journal
  refine ⟨told, ?_, hlines⟩
  rw [Action.mapError, hrun]

/-- From any session with the state, the action prints its lines. -/
theorem run_eq {action : Action σ ε α} {value : α} {lines : List String} {session : Session σ}
    (h : Prints session.state action value lines) :
    ∃ last, action session = .ok value last ∧ last.state = session.state ∧
      last.journal.standardOutput =
        session.journal.standardOutput ++ Journal.ofLines lines := by
  obtain ⟨told, hrun, hlines⟩ := h session.journal
  exact ⟨_, hrun, rfl, hlines⟩

/-- An action that prints no lines from any state is silent. -/
theorem silent {action : Action σ ε α} {value : α} (h : ∀ state, Prints state action value []) :
    Silent action := by
  intro session
  obtain ⟨last, hrun, -, houtput⟩ := (h session.state).run_eq
  rw [after, hrun, houtput]
  exact String.append_empty

/-- What a run from a session with the state comes to. -/
theorem eq_of_run {action : Action σ ε α} {value result : α} {lines : List String}
    {session last : Session σ} (h : Prints session.state action value lines)
    (hrun : action session = .ok result last) :
    result = value ∧ last.state = session.state ∧
      last.journal.standardOutput =
        session.journal.standardOutput ++ Journal.ofLines lines := by
  obtain ⟨last', hrun', hstate, hlines⟩ := h.run_eq
  obtain ⟨rfl, rfl⟩ := EStateM.Result.ok.inj (hrun.symm.trans hrun')
  exact ⟨rfl, hstate, hlines⟩

end Prints
end Action
end SyntaxCensus
