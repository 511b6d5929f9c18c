import SyntaxCensus.Host.Process.Running

/-!
# Starting programs

A program is started by the path of its file.  A name without a slash is
looked for in the directories of the search path; a file that cannot be
started is passed over if it is missing, and remembered if it is refused.

Main definitions:

- `Starter`: how the program at a path is started.
- `Process.launch`: start a program by its name.
-/

namespace SyntaxCensus

/-- How the program at a path is started: with the words of its command, the
first of which is the name that it is called by, and as a process that is
already set up. -/
abbrev Starter :=
  NarrowText → List NarrowText → Process → Except SystemFault (Ending × Process)

/-- Where programs are looked for if the environment does not say. -/
def defaultSearchPath : NarrowText := "/bin:/usr/bin".toList

/-- The places of a program in the directories of a search path.  An empty one
is the working directory. -/
def placesOf (searchPath name : NarrowText) : List NarrowText :=
  if name.contains '/' then [name]
  else
    (Text.stretches ':' searchPath).map fun directory =>
      if directory.isEmpty then name else directory ++ '/' :: name

/-- The octets that one argument may have. -/
def maxArgument : Nat := 131071

/-- The octets that all arguments and the environment may have. -/
def maxArguments : Nat := 2097152

/-- What arguments take up: their octets, a zero and a pointer for each. -/
def sizeOfArguments (arguments : List NarrowText) : Nat :=
  arguments.foldl (fun size argument => size + argument.length + 9) 0

namespace Process

/-- The environment as texts. -/
def bindings (s : Process) : List NarrowText :=
  s.environment.map fun (name, value) => name ++ '=' :: value

/-- The words of a command take up too much space. -/
def refusesSize (s : Process) (words : List NarrowText) : Bool :=
  words.any (fun word => decide (maxArgument < word.length)) ||
    s.bindings.any (fun word => decide (maxArgument < word.length)) ||
    decide (maxArguments < sizeOfArguments words + sizeOfArguments s.bindings)

/-- Where this process looks for programs. -/
def searchPath (s : Process) : NarrowText :=
  (s.bound? "PATH").getD defaultSearchPath

/-- A shell that runs a file without a mark of its own. -/
def plainShell : NarrowText := "/bin/sh".toList

/-- Start a file, or a shell for it if it has no mark that says how. -/
def startFile (start : Starter) (path : NarrowText) (words : List NarrowText) (s : Process) :
    Except SystemFault (Ending × Process) :=
  match start path words s with
  | .error .notExecutable => start plainShell (plainShell :: path :: words.tail) s
  | other => other

/-- Start the first program that can be started among places. -/
def startFirst (start : Starter) (words : List NarrowText) (s : Process)
    (refused : Option SystemFault) :
    List NarrowText → Except SystemFault (Ending × Process)
  | [] => .error (refused.getD .notFound)
  | place :: rest =>
      match startFile start place words s with
      | .ok done => .ok done
      | .error fault =>
          match fault with
          | .notFound | .notDirectory => startFirst start words s refused rest
          | .permissionDenied => startFirst start words s (some fault) rest
          | _ => .error fault

/-- Start a program by its name, which is the first word of a command. -/
def launch (start : Starter) (words : List NarrowText) (s : Process) :
    Except SystemFault (Ending × Process) :=
  match words with
  | [] | [] :: _ => .error .notFound
  | name :: _ => startFirst start words s none (placesOf s.searchPath name)

/-- Start a program by its name and go on after it. -/
def call (start : Starter) (words : List NarrowText) (s : Process) :
    Except SystemFault (Ending × Process) :=
  match launch start words s.child with
  | .ok (ending, after) => .ok (ending, s.rejoin after)
  | .error fault => .error fault

end Process
end SyntaxCensus
