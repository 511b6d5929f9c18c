import Mathlib.Logic.Basic
import SyntaxCensus.Proofs.Journal.Effect

/-!
# Two runs side by side

Two actions agree under a relation of their states if, from any sessions with
related states, both give the same value and leave related states, or both
fail.  What was told before is of no consequence.  Longer actions agree if their
steps do, so what two whole runs have in common is put together from what their
steps have.

Main definitions:

- `Action.Gives`: an action gives a value from a session.
- `Action.Agree`: two actions agree under a relation of their states.
- `Action.Stateless`: an action agrees with itself from any two states.
- `Action.Blind`: an action agrees with itself from equal states.
- `Action.Leads`, `Action.Fails`: what an action comes to from a state.

Main results:

- `Action.compositional_agree`: longer actions agree if their steps do.
- `Action.Agree.gives_iff`: actions that agree give the same values.
- `Action.fails_bind_iff`: what fails first in a longer action.
-/

namespace SyntaxCensus
namespace Action

variable {σ τ ε ε' α β : Type}

/-! ## Values that actions give -/

/-- From a session an action gives a value. -/
def Gives (action : Action σ ε α) (session : Session σ) (value : α) : Prop :=
  ∃ last, action session = .ok value last

theorem Gives.unique {action : Action σ ε α} {session : Session σ} {value other : α}
    (h : action.Gives session value) (hother : action.Gives session other) : value = other := by
  obtain ⟨last, hrun⟩ := h
  obtain ⟨last', hrun'⟩ := hother
  exact (EStateM.Result.ok.inj (hrun.symm.trans hrun')).1

/-- An action gives what its effect has as the result. -/
theorem gives_iff_effect {action : Action σ ε α} {session : Session σ} {value : α} :
    action.Gives session value ↔ (action.effect session).1 = .ok value := by
  unfold Gives effect
  cases action session with
  | ok found last => simp
  | error reason last => simp

/-! ## Agreement -/

/-- From sessions with related states two actions give the same value and leave
related states, or both fail. -/
def Agree (rel : σ → τ → Prop) (first : Action σ ε α) (second : Action τ ε' α) : Prop :=
  ∀ session other, rel session.state other.state →
    (∃ value last last', first session = .ok value last ∧ second other = .ok value last' ∧
      rel last.state last'.state) ∨
    ∃ reason reason' last last',
      first session = .error reason last ∧ second other = .error reason' last'

/-- An action gives the same value from all sessions, or fails from all. -/
def Stateless (action : Action σ ε α) : Prop :=
  Agree (fun _ _ => True) action action

variable {rel : σ → τ → Prop}

theorem agree_pure (value : α) :
    Agree rel (pure value : Action σ ε α) (pure value : Action τ ε' α) :=
  fun session other hrel => .inl ⟨value, session, other, rfl, rfl, hrel⟩

/-- What is logged is of no consequence. -/
theorem agree_log (severity severity' : Severity) (component component' : Component)
    (message message' : String) :
    Agree rel (log severity component message : Action σ ε Unit)
      (log severity' component' message' : Action τ ε' Unit) :=
  fun _ _ hrel => .inl ⟨(), _, _, rfl, rfl, hrel⟩

/-- Actions whose effects are known agree if from related states both give the
same value or none, and leave related states. -/
theorem agree_of_hasEffect {first : Action σ ε α} {second : Action τ ε' α}
    {f : σ → Except ε α × σ} {g : τ → Except ε' α × τ} (hfirst : HasEffect first f)
    (hsecond : HasEffect second g)
    (h : ∀ state other, rel state other →
      (f state).1.toOption = (g other).1.toOption ∧ rel (f state).2 (g other).2) :
    Agree rel first second := by
  intro session other hrel
  obtain ⟨hvalue, hstate⟩ := h session.state other.state hrel
  rw [← hfirst session, ← hsecond other] at hvalue hstate
  unfold effect at hvalue hstate
  cases hrun : first session with
  | ok value last =>
      rw [hrun] at hvalue hstate
      cases hrun' : second other with
      | ok value' last' =>
          rw [hrun'] at hvalue hstate
          obtain rfl : value = value' := Option.some.inj hvalue
          exact .inl ⟨value, last, last', rfl, rfl, hstate⟩
      | error reason last' =>
          rw [hrun'] at hvalue
          cases hvalue
  | error reason last =>
      cases hrun' : second other with
      | ok value' last' =>
          rw [hrun, hrun'] at hvalue
          cases hvalue
      | error reason' last' => exact .inr ⟨reason, reason', last, last', rfl, rfl⟩

namespace Agree

/-- One step after another. -/
theorem bind {first : Action σ ε α} {second : Action τ ε' α} {next : α → Action σ ε β}
    {next' : α → Action τ ε' β} (h : Agree rel first second)
    (hnext : ∀ value, Agree rel (next value) (next' value)) :
    Agree rel (first >>= next) (second >>= next') := by
  intro session other hrel
  rcases h session other hrel with
    ⟨value, middle, middle', hfirst, hsecond, hmiddle⟩ |
    ⟨reason, reason', last, last', hfirst, hsecond⟩
  · rw [bind_of_ok hfirst, bind_of_ok hsecond]
    exact hnext value middle middle' hmiddle
  · exact .inr ⟨reason, reason', last, last', bind_of_error hfirst next,
      bind_of_error hsecond next'⟩

/-- Logging before a step is of no consequence. -/
theorem log_bind {next : Unit → Action σ ε α} {second : Action τ ε' α} (severity : Severity)
    (component : Component) (message : String) (h : Agree rel (next ()) second) :
    Agree rel (log severity component message >>= next) second :=
  fun _ other hrel => h _ other hrel

/-- Nor is logging after it. -/
theorem bind_log {first : Action σ ε α} {second : Action τ ε' α} (h : Agree rel first second)
    (severity : Severity) (component : Component) (message : α → String) :
    Agree rel (do let value ← first; log severity component (message value); return value)
      second := by
  have hsame (value : α) : Agree rel
      (do log severity component (message value); return value : Action σ ε α)
      (pure value : Action τ ε' α) :=
    log_bind _ _ _ (agree_pure value)
  have hboth := h.bind hsame
  rwa [bind_pure] at hboth

/-- Errors in other words are of no consequence. -/
theorem mapError {ε₁ ε₂ : Type} {first : Action σ ε α} {second : Action τ ε' α}
    (h : Agree rel first second) (f : ε → ε₁) (g : ε' → ε₂) :
    Agree rel (first.mapError f) (second.mapError g) := by
  intro session other hrel
  unfold Action.mapError
  rcases h session other hrel with
    ⟨value, last, last', hfirst, hsecond, hlast⟩ | ⟨reason, reason', last, last', hfirst, hsecond⟩
  · rw [hfirst, hsecond]
    exact .inl ⟨value, last, last', rfl, rfl, hlast⟩
  · rw [hfirst, hsecond]
    exact .inr ⟨f reason, g reason', last, last', rfl, rfl⟩

/-- Actions that agree give the same values from related states. -/
theorem gives_iff {first : Action σ ε α} {second : Action τ ε' α} (h : Agree rel first second)
    {session : Session σ} {other : Session τ} (hrel : rel session.state other.state) (value : α) :
    first.Gives session value ↔ second.Gives other value := by
  unfold Gives
  rcases h session other hrel with
    ⟨found, last, last', hfirst, hsecond, -⟩ | ⟨reason, reason', last, last', hfirst, hsecond⟩
  · simp [hfirst, hsecond]
  · simp [hfirst, hsecond]

end Agree

/-- Agreement is carried from steps to what they make up. -/
theorem compositional_agree : Compositional (Agree rel) where
  pure := agree_pure
  log severity component message := agree_log severity severity component component message message
  bind := Agree.bind
  mapError := Agree.mapError

/-! ## Actions that do not look at what was told -/

/-- An action does not look at what was told before. -/
def Blind (action : Action σ ε α) : Prop :=
  Agree (· = ·) action action

/-- From a state an action gives a value and leaves another state. -/
def Leads (action : Action σ ε α) (state : σ) (value : α) (next : σ) : Prop :=
  action.effect ⟨state, #[]⟩ = (.ok value, next)

/-- From a state an action fails. -/
def Fails (action : Action σ ε α) (state : σ) : Prop :=
  ∃ reason, (action.effect ⟨state, #[]⟩).1 = .error reason

section Blind

variable {action : Action σ ε α} {state : σ}

/-- What an action gives from a state, it leads to from there. -/
theorem exists_leads_iff {value : α} :
    (∃ next, action.Leads state value next) ↔ action.Gives ⟨state, #[]⟩ value := by
  unfold Leads
  rw [gives_iff_effect]
  exact ⟨fun ⟨next, h⟩ => by rw [h], fun h => ⟨_, Prod.ext h rfl⟩⟩

theorem Fails.run_eq (h : action.Fails state) :
    ∃ reason last, action ⟨state, #[]⟩ = .error reason last := by
  obtain ⟨reason, hfail⟩ := h
  obtain ⟨journal, hrun⟩ := effect_eq_error_iff.mp (Prod.ext hfail rfl)
  exact ⟨reason, _, hrun⟩

/-- An action that does not fail gives something. -/
theorem not_fails_iff : ¬ action.Fails state ↔ ∃ value next, action.Leads state value next := by
  unfold Fails Leads
  rcases action.effect ⟨state, #[]⟩ with ⟨reason | value, next⟩ <;> simp

/-- Actions that agree from equal states give and leave the same. -/
theorem Agree.leads_iff {second : Action σ ε' α} (h : Agree (· = ·) action second) {value : α}
    {next : σ} : action.Leads state value next ↔ second.Leads state value next := by
  unfold Leads effect
  rcases h ⟨state, #[]⟩ ⟨state, #[]⟩ rfl with
    ⟨found, last, last', hfirst, hsecond, heq⟩ | ⟨_, _, _, _, hfirst, hsecond⟩
  · simp [hfirst, hsecond, heq]
  · simp [hfirst, hsecond]

/-- Actions that agree from equal states fail from the same ones. -/
theorem Agree.fails_iff {second : Action σ ε' α} (h : Agree (· = ·) action second) :
    action.Fails state ↔ second.Fails state := by
  apply not_iff_not.mp
  simp only [not_fails_iff, h.leads_iff]

/-- An action whose effect is known does not look at what was told. -/
theorem HasEffect.blind {f : σ → Except ε α × σ} (h : HasEffect action f) : action.Blind :=
  agree_of_hasEffect h h fun _ _ heq => ⟨by rw [heq], by rw [heq]⟩

theorem Blind.mapError {ε₁ : Type} (h : action.Blind) (f : ε → ε₁) : (action.mapError f).Blind :=
  Agree.mapError h f f

/-- Logging before a step that does not look at what was told. -/
theorem Blind.log_bind {next : Unit → Action σ ε α} (severity : Severity)
    (component : Component) (message : String) (hnext : (next ()).Blind) :
    (log severity component message >>= next).Blind :=
  compositional_agree.log_bind severity component message hnext

/-- A blind action leads from a state to the same, whatever was told. -/
theorem Blind.leads_iff (h : action.Blind) (journal : Journal) {value : α} {next : σ} :
    action.Leads state value next ↔
      ∃ told, action ⟨state, journal⟩ = .ok value ⟨next, told⟩ := by
  unfold Leads
  rw [effect_eq_ok_iff]
  rcases h ⟨state, #[]⟩ ⟨state, journal⟩ rfl with
    ⟨found, ⟨last, _⟩, ⟨_, _⟩, hfirst, hsecond, rfl⟩ | ⟨_, _, _, _, hfirst, hsecond⟩
  · simp [hfirst, hsecond]
  · simp [hfirst, hsecond]

/-- It fails from a state whatever was told. -/
theorem Blind.fails_iff (h : action.Blind) (journal : Journal) :
    action.Fails state ↔ ∃ reason last, action ⟨state, journal⟩ = .error reason last := by
  unfold Fails effect
  rcases h ⟨state, #[]⟩ ⟨state, journal⟩ rfl with
    ⟨found, last, last', hfirst, hsecond, -⟩ | ⟨_, _, _, _, hfirst, hsecond⟩
  · simp [hfirst, hsecond]
  · simp [hfirst, hsecond]

theorem not_fails_pure (value : α) : ¬ (pure value : Action σ ε α).Fails state :=
  not_fails_iff.mpr ⟨value, state, rfl⟩

/-- An action fails with its errors in other words exactly if it fails. -/
theorem fails_mapError_iff {ε₁ : Type} (f : ε → ε₁) :
    (action.mapError f).Fails state ↔ action.Fails state := by
  unfold Fails effect mapError
  cases action ⟨state, #[]⟩ <;> simp

theorem leads_mapError_iff {ε₁ : Type} (f : ε → ε₁) {value : α} {next : σ} :
    (action.mapError f).Leads state value next ↔ action.Leads state value next := by
  unfold Leads effect mapError
  cases action ⟨state, #[]⟩ <;> simp

/-- A longer action fails if its first step does. -/
theorem Fails.bind (h : action.Fails state) (next : α → Action σ ε β) :
    (action >>= next).Fails state := by
  obtain ⟨reason, last, hrun⟩ := h.run_eq
  exact ⟨reason, by rw [effect, bind_of_error hrun]⟩

/-- A longer action fails if its first step does, or the next one does after it. -/
theorem fails_bind_iff {next : α → Action σ ε β} (hnext : ∀ value, (next value).Blind) :
    (action >>= next).Fails state ↔
      action.Fails state ∨
        ∃ value middle, action.Leads state value middle ∧ (next value).Fails middle := by
  cases hrun : action ⟨state, #[]⟩ with
  | error reason last => simp [Fails, Leads, effect, bind_of_error hrun, hrun]
  | ok value last =>
      obtain ⟨middle, journal⟩ := last
      have hfirst : (action >>= next).Fails state ↔ (next value).Fails middle := by
        rw [(hnext value).fails_iff journal]
        simp only [Fails, effect, bind_of_ok hrun]
        cases next value ⟨middle, journal⟩ <;> simp
      have hleads : action.Leads state value middle := effect_eq_ok_iff.mpr ⟨journal, hrun⟩
      constructor
      · exact fun h => .inr ⟨value, middle, hleads, hfirst.mp h⟩
      · rintro (⟨reason, hfail⟩ | ⟨value', middle', hother, hfail⟩)
        · simp [effect, hrun] at hfail
        · obtain ⟨rfl, rfl⟩ : value = value' ∧ middle = middle' := by
            simpa using hleads.symm.trans hother
          exact hfirst.mpr hfail

/-- A longer action gives what its next step does after the first one. -/
theorem leads_bind_iff {next : α → Action σ ε β} (hnext : ∀ value, (next value).Blind)
    {result : β} {last : σ} :
    (action >>= next).Leads state result last ↔
      ∃ value middle, action.Leads state value middle ∧ (next value).Leads middle result last := by
  cases hrun : action ⟨state, #[]⟩ with
  | error reason last => simp [Leads, effect, bind_of_error hrun, hrun]
  | ok value session =>
      obtain ⟨middle, journal⟩ := session
      have hleads : action.Leads state value middle := effect_eq_ok_iff.mpr ⟨journal, hrun⟩
      have hfirst : (action >>= next).Leads state result last ↔
          (next value).Leads middle result last := by
        rw [(hnext value).leads_iff journal, Leads, effect_eq_ok_iff, bind_of_ok hrun]
      rw [hfirst]
      constructor
      · exact fun h => ⟨value, middle, hleads, h⟩
      · rintro ⟨value', middle', hother, h⟩
        obtain ⟨rfl, rfl⟩ : value = value' ∧ middle = middle' := by
          simpa using hleads.symm.trans hother
        exact h

end Blind

end Action
end SyntaxCensus
