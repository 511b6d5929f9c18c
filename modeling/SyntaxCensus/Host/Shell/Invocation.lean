import SyntaxCensus.Host.Shell.Run

/-!
# A shell as a program

A shell gets the text of a script from its arguments, from a file, or from its
input, and runs it in the environment that it is started with.

Main definitions:

- `Shell.invoke`: what a shell does as a process.
-/

namespace SyntaxCensus
namespace Shell

/-- How deep the commands of a script may be nested. -/
def maxDepth : Nat := 20000

/-- The version of the extended language, as the shell tells it. -/
def version : String := "5.2.21(1)-release"

/-- The variables of the extended language. -/
def richBindings (s : Process) : List (NarrowText × Variable) :=
  let text (name value : String) : NarrowText × Variable :=
    (name.toList, { value := some value.toList })
  let parts := ["5", "2", "21", "1", "release", "x86_64-pc-linux-gnu"].map String.toList
  let number (name : String) : NarrowText × Variable :=
    (name.toList, { value := some ['0'], counts := true, readOnly := true })
  let level := ((s.environment.find? fun entry => entry.1 = "SHLVL".toList).bind fun entry =>
    Numeral.natural? entry.2).getD 0
  [text "BASH" "/bin/bash", text "BASH_VERSION" version, text "SHELL" "/bin/bash",
    ("BASH_VERSINFO".toList,
      { value := parts.head?, elements := some (.ofValues parts), readOnly := true }),
    text "HOSTTYPE" "x86_64", text "MACHTYPE" "x86_64-pc-linux-gnu",
    text "OSTYPE" "linux-gnu", text "OPTERR" "1",
    number "EUID", number "UID",
    ("SHLVL".toList, { value := some (Numeral.ofNat (level + 1)), exported := true })]

/-- The variables that a shell has in any case. -/
def ownBindings (extended : Bool) (s : Process) : List (NarrowText × Variable) :=
  let own (name : String) (value : NarrowText) : NarrowText × Variable :=
    (name.toList, { value := some value })
  let prompts := if extended then [] else [own "PS1" ['#', ' '], own "PS2" ['>', ' ']]
  prompts ++ [own "IFS" blankSeparators, own "OPTIND" ['1'], own "PS4" ['+', ' '],
    own "PPID" (Numeral.ofNat s.parent)] ++ if extended then richBindings s else []

/-- The variables that a shell does not take from its environment. -/
def ownNames (extended : Bool) : List String :=
  ["IFS", "PPID"] ++ if extended then ["BASH", "BASH_VERSION", "EUID", "UID", "SHLVL"] else []

/-- The variables of a shell in the environment of its process. -/
def initialBindings (extended : Bool) (s : Process) : List (NarrowText × Variable) :=
  let inherited := s.environment.filterMap fun (name, value) =>
    if isName name && !isNamed (ownNames extended) name then
      some (name, { value := some value, exported := true })
    else none
  let own := (ownBindings extended s).filter fun entry =>
    !inherited.any fun other => other.1 = entry.1
  inherited ++ own

/-- The state in which a shell starts. -/
def initialState (extended : Bool) (name : NarrowText) (s : Process) : State :=
  let state : State :=
    { toProcess := s
      extended
      name
      bindings := initialBindings extended s
      shellNumber := s.number
      modes := Settings.initial extended
      settings := if extended then Builtin.initialSettings else [] }
  state.putVariable "PWD".toList
    { value := some (Builtin.shownDirectory state)
      exported := extended || (state.lookup? "PWD".toList).any Variable.exported }

/-- Run the text of a script to its end. -/
def interpret (run : Runner) (p : Position) (text : NarrowText) : Run Unit :=
  leaving run (runText run p text)

/-- Do what the words behind the name of a shell ask for. -/
def runInvocation (run : Runner) (words : List NarrowText) : Run Unit := do
  let outcome ← Settings.read true false words
  if outcome.command then
    match outcome.rest with
    | [] => Run.fault "-c requires an argument".toList
    | [text] => interpret run (Position.final .plain) text
    | text :: name :: arguments => do
        modify fun s => { s with name, arguments }
        interpret run (Position.final .plain) text
  else
    match outcome.rest, (← get).isOn 's' with
    | path :: arguments, false => do
        match (← get).toProcess.readFile path with
        | .ok text => do
            modify fun s => { s with name := path, arguments }
            if (← get).extended then Run.putElements "BASH_SOURCE".toList (.ofValues [path])
            interpret run .plain text
        | .error fault =>
            if (← get).extended then
              Run.printDiagnostic ((← get).name ++ ": ".toList ++ path ++ ": ".toList ++
                fault.description.toList)
              Run.exit 127
            else
              Run.fault ("cannot open ".toList ++ path ++ ": ".toList ++
                (openReason false fault).toList)
    | arguments, _ => do
        modify fun s => Settings.switch true 's' { s with arguments }
        match ← modifyGet fun s =>
            let (text, process) := s.toProcess.takeAll 0
            (text, s.withProcess process) with
        | .ok text => interpret run .plain text
        | .error _ => Run.finish 0

/-- What a shell does as a process: it is called by the first word, and the
others say what to run.  It may know the extended language. -/
def invoke (extended : Bool) (start : Starter) (words : List NarrowText) (s : Process) :
    Ending × Process :=
  let run := Command.run start maxDepth
  let state := initialState extended (words.headD []) s
  let (outcome, after) :=
    ((runInvocation run words.tail).run state : Except Interruption Unit × State)
  (Run.endingOf outcome after, after.toProcess)

end Shell
end SyntaxCensus
