import SyntaxCensus.Proofs.Journal.Effect
import SyntaxCensus.Toolchain.Analysis

/-!
# Recording what is read and what is asked

Sources and compilers that answer by a function can write down every question.
An action that runs with them leaves the files it read and the calls it made, in
order.

Main definitions:

- `Trace`: the files that were read and the calls that were made.
- `Trace.reading`, `Trace.compilers`: sources and compilers that are recorded.
- `Trace.Leaves`: an action gives a result and leaves a trace.
-/

namespace SyntaxCensus

/-- A text that was given to the compiler of a toolchain. -/
structure Call where
  toolchain : Toolchain
  input : String
  deriving DecidableEq

/-- A file that was read or a call that was made. -/
inductive Trace.Step where
  | read (file : String)
  | call (call : Call)
  deriving DecidableEq

/-- The files that were read and the calls that were made, in order. -/
abbrev Trace := List Trace.Step

namespace Trace

/-- The files that were read. -/
def reads (trace : Trace) : List String :=
  trace.filterMap fun
    | .read file => some file
    | .call _ => none

/-- The calls that were made. -/
def calls (trace : Trace) : List Call :=
  trace.filterMap fun
    | .read _ => none
    | .call call => some call

/-- A trace of calls. -/
def ofCalls (calls : List Call) : Trace :=
  calls.map Step.call

theorem ofCalls_cons (call : Call) (calls : List Call) :
    ofCalls (call :: calls) = ofCalls [call] ++ ofCalls calls := rfl

@[simp] theorem reads_append (first second : Trace) :
    reads (first ++ second) = reads first ++ reads second :=
  List.filterMap_append

@[simp] theorem calls_append (first second : Trace) :
    calls (first ++ second) = calls first ++ calls second :=
  List.filterMap_append

@[simp] theorem reads_read_cons (file : String) (trace : Trace) :
    reads (.read file :: trace) = file :: reads trace := rfl

@[simp] theorem calls_read_cons (file : String) (trace : Trace) :
    calls (.read file :: trace) = calls trace := rfl

/-- No file is read in a trace of calls. -/
@[simp] theorem reads_ofCalls (calls : List Call) : reads (ofCalls calls) = [] := by
  induction calls with
  | nil => rfl
  | cons call rest ih => exact ih

/-- A trace of calls has these calls. -/
@[simp] theorem calls_ofCalls (calls : List Call) : Trace.calls (ofCalls calls) = calls := by
  induction calls with
  | nil => rfl
  | cons call rest ih => exact congrArg (call :: ·) ih

/-- Sources that are known by their names, every reading of which is
recorded. -/
def reading {ρ : Type} (source : String → Except ρ String) (file : String) :
    Action Trace ρ String :=
  Action.onState fun trace => (source file, trace ++ [.read file])

/-- A compiler that replies to every input by a function, every call of which is
recorded. -/
def compiler (reply : Toolchain → String → Except CompilerError String) (toolchain : Toolchain) :
    Compiler Trace := fun input =>
  Action.onState fun trace => (reply toolchain input, trace ++ [.call ⟨toolchain, input⟩])

/-- The recorded compilers of both toolchains. -/
def compilers (reply : Toolchain → String → Except CompilerError String) : Compilers Trace where
  current := compiler reply .current
  legacy := compiler reply .legacy

/-! ## What an action leaves -/

/-- An action gives a result and leaves a trace, whatever was told and recorded
before. -/
def Leaves {ε α : Type} (action : Action Trace ε α) (result : Except ε α) (left : Trace) : Prop :=
  ∀ session, action.effect session = (result, session.state ++ left)

section Leaves

variable {ε α β : Type}

/-- A file that is read leaves its name. -/
theorem leaves_reading {ρ : Type} (source : String → Except ρ String) (file : String) :
    Leaves (reading source file) (source file) [.read file] := by
  intro session
  rw [reading, Action.hasEffect_onState]

/-- A compiler that is called leaves the call. -/
theorem leaves_compilers (reply : Toolchain → String → Except CompilerError String)
    (toolchain : Toolchain) (input : String) :
    Leaves ((compilers reply).of toolchain input) (reply toolchain input)
      (ofCalls [⟨toolchain, input⟩]) := by
  have hcall : Leaves (compiler reply toolchain input) (reply toolchain input)
      (ofCalls [⟨toolchain, input⟩]) := by
    intro session
    rw [compiler, Action.hasEffect_onState]
    rfl
  cases toolchain with
  | current => exact hcall
  | legacy => exact hcall

theorem leaves_pure (result : α) : Leaves (pure result : Action Trace ε α) (.ok result) [] := by
  intro session
  rw [List.append_nil]
  rfl

namespace Leaves

/-- A step that succeeds and the next one leave both traces. -/
theorem bind_ok {first : Action Trace ε α} {next : α → Action Trace ε β} {value : α}
    {result : Except ε β} {left later : Trace} (hfirst : Leaves first (.ok value) left)
    (hnext : Leaves (next value) result later) :
    Leaves (first >>= next) result (left ++ later) := by
  intro session
  obtain ⟨journal, hstep⟩ := Action.effect_eq_ok_iff.mp (hfirst session)
  rw [← List.append_assoc, Action.effect, Action.bind_of_ok hstep]
  exact hnext ⟨session.state ++ left, journal⟩

/-- A step that succeeds and a next one that leaves nothing. -/
theorem bind_silent {first : Action Trace ε α} {next : α → Action Trace ε β} {value : α}
    {result : Except ε β} {left : Trace} (hfirst : Leaves first (.ok value) left)
    (hnext : Leaves (next value) result []) : Leaves (first >>= next) result left := by
  have h := hfirst.bind_ok hnext
  rwa [List.append_nil] at h

/-- A step that fails is the last one. -/
theorem bind_error {first : Action Trace ε α} {next : α → Action Trace ε β} {reason : ε}
    {left : Trace} (hfirst : Leaves first (.error reason) left) :
    Leaves (first >>= next) (.error reason) left := by
  intro session
  obtain ⟨journal, hstep⟩ := Action.effect_eq_error_iff.mp (hfirst session)
  rw [Action.effect, Action.bind_of_error hstep]

/-- A step with its errors said in other words leaves the same. -/
theorem mapError {ε' : Type} {action : Action Trace ε α} {result : Except ε α} {left : Trace}
    (f : ε → ε') (h : Leaves action result left) :
    Leaves (action.mapError f) (result.mapError f) left := by
  intro session
  cases result with
  | ok value =>
      obtain ⟨journal, hstep⟩ := Action.effect_eq_ok_iff.mp (h session)
      simp only [Action.effect, Action.mapError, hstep]
      rfl
  | error reason =>
      obtain ⟨journal, hstep⟩ := Action.effect_eq_error_iff.mp (h session)
      simp only [Action.effect, Action.mapError, hstep]
      rfl

/-- Logging before a step leaves nothing. -/
theorem log_bind {next : Unit → Action Trace ε α} {result : Except ε α} {left : Trace}
    (severity : Severity) (component : Component) (message : String)
    (hnext : Leaves (next ()) result left) :
    Leaves (Action.log severity component message >>= next) result left :=
  fun _ => hnext _

end Leaves
end Leaves
end Trace
end SyntaxCensus
