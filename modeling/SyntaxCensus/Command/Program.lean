import SyntaxCensus.Command.Options
import SyntaxCensus.Command.Validate
import SyntaxCensus.Journal.Filter
import SyntaxCensus.Process.Compiling

/-!
# The program

The program reads its arguments, does what they ask for, and ends with a
status: zero for success, one for a command that failed, two for arguments
that ask for nothing.

Main definitions:

- `Program.run`: the answer to arguments in an environment.
-/

namespace SyntaxCensus

/-- What the program leaves behind on its channels, and its status. -/
structure Answer where
  status : Nat
  output : String
  diagnostics : String
  deriving DecidableEq, Repr

namespace Program

/-- The name of the program. -/
def name : String := "sol-node-stats"

/-- How the program is used. -/
def usage : String :=
  "Usage: " ++ name ++ " [-v] analyze [-d DIR] [--ext EXT | --all-files] [-o OUTPUT] " ++
    "[--summary] [--top TOP]\n" ++
    "                              [--solc SOLC] [--solc-legacy SOLC_LEGACY]\n" ++
    "       " ++ name ++ " [-v] validate -f FILE\n" ++
    "       " ++ name ++ " [-v] version\n"

/-- The answer to arguments that ask for no command. -/
def stopped : Dismissal → Answer
  | .misuse => ⟨2, "", usage⟩
  | .help => ⟨0, usage, ""⟩
  | .programVersion => ⟨0, name ++ " " ++ programVersion ++ "\n", ""⟩

/-! ## Errors -/

/-- The line of a cause with its number. -/
def numbered (index : Nat) (cause : String) : String :=
  "    " ++ toString index ++ ": " ++ Text.setIn 7 cause ++ "\n"

/-- What is printed about an error: its message, then its causes, which have
numbers if there are several. -/
def errorText : List String → String
  | [] => ""
  | [message] => "Error: " ++ message ++ "\n"
  | [message, cause] =>
      "Error: " ++ message ++ "\n\nCaused by:\n    " ++ Text.setIn 4 cause ++ "\n"
  | message :: causes =>
      "Error: " ++ message ++ "\n\nCaused by:\n" ++
        String.join (causes.mapIdx fun index cause => numbered index cause)

/-! ## Running -/

/-- The filter for the log, and what is wrong with the text that asks for it.
The environment decides before the arguments do. -/
def logFilter (environment : Environment) (verbose : Bool) : LogFilter × List String :=
  match environment.get? "RUST_LOG" with
  | some text => LogFilter.read text
  | none => (.ofThreshold (some (if verbose then .debug else .info)), [])

/-- Do what is asked for.  `seconds` tells how long an analysis takes. -/
def perform (launch : Launcher FileSystem) (seconds : String) :
    Request → Action FileSystem CommandError Unit
  | .analyze settings =>
      Analyze.run
        (.ofPrograms launch settings.current settings.legacy currentArguments) settings seconds
  | .validate file => Validate.run file
  | .version => Version.print

/-- The answer to an invocation, and the files after it. -/
def answer (launch : Launcher FileSystem) (environment : Environment) (invocation : Invocation)
    (seconds : String) (files : FileSystem) : Answer × FileSystem :=
  let (filter, problems) := logFilter environment invocation.verbose
  let (result, session) := (perform launch seconds invocation.request).start files
  let warnings := String.join (problems.map fun problem => s!"warning: {problem}, ignoring it\n")
  let told := warnings ++ session.journal.diagnosticOutput filter.shows
  let output := session.journal.standardOutput
  match result with
  | .ok _ => (⟨0, output, told⟩, session.state)
  | .error reason => (⟨1, output, told ++ errorText reason.chain⟩, session.state)

/-- The answer to arguments in an environment, and the files after it. -/
def run (launch : Launcher FileSystem) (environment : Environment) (arguments : List String)
    (seconds : String) (files : FileSystem) : Answer × FileSystem :=
  match Invocation.read environment arguments with
  | .error stop => (stopped stop, files)
  | .ok invocation => answer launch environment invocation seconds files

end Program
end SyntaxCensus
