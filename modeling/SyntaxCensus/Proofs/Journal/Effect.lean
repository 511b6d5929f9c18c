import SyntaxCensus.Journal.Action

/-!
# What an action does

Seen without its journal, an action gives a result and changes the state.  Many
actions do the same whatever was told before; what they do is a function of the
state, and the function of a longer action is put together from those of its
steps.

Main definitions:

- `Action.effect`: the result of an action and the state after it.
- `Action.HasEffect`: an action does what a function of the state says.
- `Action.Compositional`: a relation of actions that holds of longer ones if it holds
  of their steps.

Main results:

- `Action.HasEffect.bind`: one step after another.
- `Action.bind_eq_ok`: both steps of a sequence that succeeds succeed.
-/

namespace SyntaxCensus
namespace Action

variable {σ ε α β : Type}

/-- The result of an action and the state after it, without what was told. -/
def effect (action : Action σ ε α) (session : Session σ) : Except ε α × σ :=
  match action session with
  | .ok result after => (.ok result, after.state)
  | .error reason after => (.error reason, after.state)

/-- A function of the state, and with its result a second one. -/
def andThen (first : σ → Except ε α × σ) (next : α → σ → Except ε β × σ) (state : σ) :
    Except ε β × σ :=
  match first state with
  | (.ok result, after) => next result after
  | (.error reason, after) => (.error reason, after)

/-- The effect is a result if the action ends with it, whatever it has told. -/
theorem effect_eq_ok_iff {action : Action σ ε α} {session : Session σ} {result : α} {state : σ} :
    action.effect session = (.ok result, state) ↔
      ∃ journal, action session = .ok result ⟨state, journal⟩ := by
  unfold effect
  cases action session with
  | ok value after =>
      obtain ⟨state', journal⟩ := after
      simp
  | error reason after => simp

theorem effect_eq_error_iff {action : Action σ ε α} {session : Session σ} {reason : ε}
    {state : σ} :
    action.effect session = (.error reason, state) ↔
      ∃ journal, action session = .error reason ⟨state, journal⟩ := by
  unfold effect
  cases action session with
  | ok value after => simp
  | error reason' after =>
      obtain ⟨state', journal⟩ := after
      simp

/-- An action does what a function of the state says, whatever was told
before. -/
def HasEffect (action : Action σ ε α) (f : σ → Except ε α × σ) : Prop :=
  ∀ session, action.effect session = f session.state

/-! ## Sequences -/

/-- A sequence goes on with the value of its first step. -/
theorem bind_of_ok {first : Action σ ε α} {session after : Session σ} {value : α}
    (h : first session = .ok value after) (next : α → Action σ ε β) :
    (first >>= next) session = next value after := by
  simp only [Bind.bind, EStateM.bind, h]

/-- A sequence ends with its first step if that fails. -/
theorem bind_of_error {first : Action σ ε α} {session after : Session σ} {reason : ε}
    (h : first session = .error reason after) (next : α → Action σ ε β) :
    (first >>= next) session = .error reason after := by
  simp only [Bind.bind, EStateM.bind, h]

/-- A sequence succeeds if both of its steps do. -/
theorem exists_bind_ok {first : Action σ ε α} {next : α → Action σ ε β}
    {session middle : Session σ} {value : α} {result : β}
    (hfirst : first session = .ok value middle)
    (hnext : ∃ last, next value middle = .ok result last) :
    ∃ last, (first >>= next) session = .ok result last :=
  hnext.imp fun _ h => (bind_of_ok hfirst next).trans h

/-- Both steps of a sequence that succeeds succeed. -/
theorem bind_eq_ok {first : Action σ ε α} {next : α → Action σ ε β} {session last : Session σ}
    {result : β} (h : (first >>= next) session = .ok result last) :
    ∃ value after, first session = .ok value after ∧ next value after = .ok result last := by
  cases hfirst : first session with
  | ok value after =>
      rw [bind_of_ok hfirst] at h
      exact ⟨value, after, rfl, h⟩
  | error reason after =>
      rw [bind_of_error hfirst] at h
      cases h

/-- An action that succeeds with its errors in other words succeeds without. -/
theorem ok_of_mapError_ok {ε' : Type} {f : ε → ε'} {action : Action σ ε α}
    {session last : Session σ} {result : α}
    (h : action.mapError f session = .ok result last) : action session = .ok result last := by
  unfold mapError at h
  cases hrun : action session with
  | ok value after =>
      rw [hrun] at h
      obtain ⟨rfl, rfl⟩ := EStateM.Result.ok.inj h
      rfl
  | error reason after =>
      rw [hrun] at h
      cases h

/-- After a step that succeeds, a sequence does what its next step does. -/
theorem effect_bind_of_ok {first : Action σ ε α} {session : Session σ} {value : α} {state : σ}
    (h : first.effect session = (.ok value, state)) (next : α → Action σ ε β) :
    ∃ journal, (first >>= next).effect session = (next value).effect ⟨state, journal⟩ := by
  obtain ⟨journal, hfirst⟩ := effect_eq_ok_iff.mp h
  exact ⟨journal, by rw [effect, bind_of_ok hfirst, effect]⟩

/-- A sequence ends with the error of its first step. -/
theorem effect_bind_of_error {first : Action σ ε α} {session : Session σ} {reason : ε} {state : σ}
    (h : first.effect session = (.error reason, state)) (next : α → Action σ ε β) :
    (first >>= next).effect session = (.error reason, state) := by
  obtain ⟨journal, hfirst⟩ := effect_eq_error_iff.mp h
  exact effect_eq_error_iff.mpr ⟨journal, bind_of_error hfirst next⟩

theorem effect_get_bind (next : Session σ → Action σ ε α) (session : Session σ) :
    (get >>= next).effect session = (next session).effect session :=
  rfl

/-! ## Single steps -/

theorem hasEffect_pure (result : α) :
    HasEffect (pure result : Action σ ε α) fun state => (.ok result, state) :=
  fun _ => rfl

theorem hasEffect_throw (reason : ε) :
    HasEffect (throw reason : Action σ ε α) fun state => (.error reason, state) :=
  fun _ => rfl

theorem hasEffect_log (severity : Severity) (component : Component) (message : String) :
    HasEffect (log severity component message : Action σ ε Unit) fun state => (.ok (), state) :=
  fun _ => rfl

theorem hasEffect_ofExcept (result : Except ε α) :
    HasEffect (ofExcept result : Action σ ε α) fun state => (result, state) := by
  cases result with
  | error reason => exact hasEffect_throw reason
  | ok value => exact hasEffect_pure value

theorem hasEffect_onState (step : σ → Except ε α × σ) : HasEffect (onState step) step := by
  intro session
  obtain ⟨state, journal⟩ := session
  simp only [effect, onState]
  cases step state with
  | mk result after => cases result <;> rfl

/-! ## Several steps -/

namespace HasEffect

/-- One step after another. -/
theorem bind {first : Action σ ε α} {next : α → Action σ ε β} {f : σ → Except ε α × σ}
    {g : α → σ → Except ε β × σ} (hfirst : HasEffect first f)
    (hnext : ∀ result, HasEffect (next result) (g result)) :
    HasEffect (first >>= next) (andThen f g) := by
  intro session
  have hstep := hfirst session
  unfold effect andThen
  cases h : first session with
  | ok result after =>
      rw [effect, h] at hstep
      rw [bind_of_ok h, ← hstep]
      exact hnext result after
  | error reason after =>
      rw [effect, h] at hstep
      rw [bind_of_error h, ← hstep]

/-- A step that looks at the state first. -/
theorem get_bind {next : Session σ → Action σ ε α} {g : σ → σ → Except ε α × σ}
    (hnext : ∀ session, HasEffect (next session) (g session.state)) :
    HasEffect (get >>= next) fun state => g state state :=
  fun session => hnext session session

/-- Logging before a step changes nothing of what the step does. -/
theorem log_bind {next : Unit → Action σ ε α} {f : σ → Except ε α × σ} (severity : Severity)
    (component : Component) (message : String) (hnext : HasEffect (next ()) f) :
    HasEffect (log severity component message >>= next) f :=
  fun _ => hnext _

end HasEffect

/-! ## What longer actions have from their steps -/

/-- A relation of actions, of which each may have a state of its own, holds of giving
a value and of logging; and it holds of a sequence and of actions with their errors in
other words, if it holds of the parts. -/
structure Compositional {σ τ : Type}
    (R : ∀ {ε ε' α : Type}, Action σ ε α → Action τ ε' α → Prop) : Prop where
  pure {ε ε' α : Type} (value : α) :
    R (Pure.pure value : Action σ ε α) (Pure.pure value : Action τ ε' α)
  log {ε ε' : Type} (severity : Severity) (component : Component) (message : String) :
    R (Action.log severity component message : Action σ ε Unit)
      (Action.log severity component message : Action τ ε' Unit)
  bind {ε ε' α β : Type} {first : Action σ ε α} {second : Action τ ε' α}
    {next : α → Action σ ε β} {next' : α → Action τ ε' β} (h : R first second)
    (hnext : ∀ value, R (next value) (next' value)) : R (first >>= next) (second >>= next')
  mapError {ε ε' ε₁ ε₂ α : Type} {first : Action σ ε α} {second : Action τ ε' α}
    (h : R first second) (f : ε → ε₁) (g : ε' → ε₂) :
    R (first.mapError f) (second.mapError g)

/-- Logging before a step is of no consequence. -/
theorem Compositional.log_bind {τ ε' : Type}
    {R : ∀ {ε ε' α : Type}, Action σ ε α → Action τ ε' α → Prop} (h : Compositional R)
    (severity : Severity) (component : Component) (message : String)
    {next : Unit → Action σ ε α} {next' : Unit → Action τ ε' α}
    (hnext : R (next ()) (next' ())) :
    R (Action.log severity component message >>= next)
      (Action.log severity component message >>= next') :=
  h.bind (h.log severity component message) fun _ => hnext

end Action
end SyntaxCensus
