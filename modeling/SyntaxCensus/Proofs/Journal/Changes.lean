import Mathlib.Logic.Relation
import SyntaxCensus.Proofs.Journal.Output

/-!
# Which steps change the state

Most actions leave the state as it is.  A longer action changes it by the steps
that its parts take, one after the other, also if it fails on the way.

Main definitions:

- `Action.Within`: an action changes the state by steps of a relation only.

Main results:

- `Action.compositional_within`: longer actions change what their steps do.
-/

namespace SyntaxCensus
namespace Action

variable {σ ε α β : Type}

/-- The state after an action is reached by steps of a relation, also if the
action fails. -/
def Within (step : σ → σ → Prop) (action : Action σ ε α) : Prop :=
  ∀ session, Relation.ReflTransGen step session.state (action.after session).state

variable {step : σ → σ → Prop}

theorem within_pure (value : α) : Within step (pure value : Action σ ε α) :=
  fun _ => .refl

theorem within_log (severity : Severity) (component : Component) (message : String) :
    Within step (log severity component message : Action σ ε Unit) :=
  fun _ => .refl

/-- An action that changes no state. -/
theorem within_of_hasEffect {action : Action σ ε α} {result : σ → Except ε α}
    (h : HasEffect action fun state => (result state, state)) : Within step action := by
  intro session
  have hstate : (action.after session).state = (action.effect session).2 := by
    unfold after effect
    cases action session <;> rfl
  rw [hstate, h session]

/-- An action that is a step from every state. -/
theorem within_of_step {action : Action σ ε α}
    (h : ∀ session, step session.state (action.after session).state) : Within step action :=
  fun session => .single (h session)

namespace Within

/-- One step after another. -/
theorem bind {first : Action σ ε α} {next : α → Action σ ε β} (hfirst : Within step first)
    (hnext : ∀ value, Within step (next value)) : Within step (first >>= next) := by
  intro session
  rcases after_bind_cases first next session with hsame | ⟨value, hlater⟩
  · rw [hsame]
    exact hfirst session
  · rw [hlater]
    exact (hfirst session).trans (hnext value _)

/-- Errors in other words change nothing more. -/
theorem mapError {ε' : Type} {action : Action σ ε α} (h : Within step action) (f : ε → ε') :
    Within step (action.mapError f) := by
  intro session
  rw [after_mapError]
  exact h session

end Within

/-- What changes the state is carried from steps to what they make up. -/
theorem compositional_within :
    Compositional (σ := σ) (τ := σ) fun first _ => Within step first where
  pure := within_pure
  log := within_log
  bind := Within.bind
  mapError h f _ := h.mapError f

end Action
end SyntaxCensus
