import SyntaxCensus.Process.Basic
import SyntaxCensus.Text.Lines
import SyntaxCensus.Text.Utf8
import SyntaxCensus.Toolchain.Analysis

/-!
# Compilers that are programs

A compiler program gets the input text as UTF-8, and what it writes on its
output is its answer, whatever its status: invalid octets are shown as U+FFFD.
A status that is no success is told together with the diagnostics.  Input that the
program did not take is no error; a program that could not be started is one, and
so is input or output that was lost otherwise.

Main definitions:

- `Compiler.ofProgram`: the compiler that starts a program.
- `Compilers.ofPrograms`: a program for each toolchain.
-/

namespace SyntaxCensus

variable {σ : Type}

/-- Tell about a process that did not do what was asked. -/
def Finished.tell (finished : Finished) (program : String) : Action σ CompilerError Unit := do
  if finished.stoppedEarly then
    Action.log .debug .process ("Compiler `" ++ program ++ "` stopped reading input early")
  if !finished.ending.isSuccess then
    Action.log .warning .process
      ("Compiler `" ++ program ++ "` exited with " ++ finished.ending.description ++ ": " ++
        trimBlanks (Utf8.decodeLossy finished.diagnostics))

/-- Why a compiler could not be run, if it is a program that left nothing behind. -/
def CompilerError.ofLaunch (program : String) : LaunchFault → CompilerError
  | .notStarted cause => .notStarted program cause
  | .interrupted cause => .interrupted cause

/-- The compiler that starts a program with arguments. -/
def Compiler.ofProgram (launch : Launcher σ) (program : String) (arguments : List String) :
    Compiler σ := fun input => do
  Action.log .debug .process
    ("Running compiler: " ++ program ++ " " ++ " ".intercalate arguments)
  let finished ← Action.onState fun state =>
    match launch program arguments (Utf8.encode input) state with
    | (.ok finished, state) => (.ok finished, state)
    | (.error fault, state) => (.error (CompilerError.ofLaunch program fault), state)
  finished.tell program
  return Utf8.decodeLossy finished.output

/-- A program for each toolchain; the current one is told to expect a request. -/
def Compilers.ofPrograms (launch : Launcher σ) (current legacy : String)
    (arguments : List String) : Compilers σ :=
  ⟨.ofProgram launch current arguments, .ofProgram launch legacy []⟩

end SyntaxCensus
