import SyntaxCensus.Journal.Record

/-!
# Actions

A step of a command reads and changes a state, tells what it does in the
journal, and ends with a result or an error.  Changes and journal made before
an error stay.

Main definitions:

- `Action`: a step with state `σ`, errors `ε` and results `α`.
- `Action.log`, `Action.print`: telling something.
- `Action.onState`: a step on the state alone.
- `Action.mapError`, `Action.attempt`: errors in other words, or as results.
-/

namespace SyntaxCensus

/-- The state that actions work on, and what they told. -/
structure Session (σ : Type) where
  state : σ
  journal : Journal

/-- A step of a command. -/
abbrev Action (σ ε α : Type) := EStateM ε (Session σ) α

namespace Action

variable {σ ε α : Type}

/-- Put an event at the end of the journal. -/
def tell (event : Event) : Action σ ε Unit :=
  modify fun session => { session with journal := session.journal.push event }

/-- Log a record. -/
def log (severity : Severity) (component : Component) (message : String) : Action σ ε Unit :=
  tell (.log ⟨severity, component, message⟩)

/-- Print a line on standard output. -/
def printLine (line : String) : Action σ ε Unit :=
  tell (.output (line ++ "\n"))

/-- Print a line on the diagnostic output. -/
def diagnosticLine (line : String) : Action σ ε Unit :=
  tell (.diagnostic (line ++ "\n"))

/-- A step that changes the state and tells nothing. -/
def onState (step : σ → Except ε α × σ) : Action σ ε α := fun session =>
  match step session.state with
  | (.ok result, state) => .ok result { session with state }
  | (.error reason, state) => .error reason { session with state }

/-- The result that was found before, or its error. -/
def ofExcept (result : Except ε α) : Action σ ε α :=
  match result with
  | .ok value => pure value
  | .error reason => throw reason

/-- The same step with its errors said in other words. -/
def mapError {ε' : Type} (f : ε → ε') (action : Action σ ε α) : Action σ ε' α := fun session =>
  match action session with
  | .ok result session => .ok result session
  | .error reason session => .error (f reason) session

/-- A step that cannot fail: an error becomes part of the result. -/
def attempt {ε' : Type} (action : Action σ ε α) : Action σ ε' (Except ε α) := fun session =>
  match action session with
  | .ok result session => .ok (.ok result) session
  | .error reason session => .ok (.error reason) session

/-- Run from a state and an empty journal. -/
def start (action : Action σ ε α) (state : σ) : Except ε α × Session σ :=
  match EStateM.run action ⟨state, #[]⟩ with
  | .ok result session => (.ok result, session)
  | .error reason session => (.error reason, session)

end Action
end SyntaxCensus
