import SyntaxCensus.Host.Installation
import SyntaxCensus.Host.Shell.Invocation

/-!
# Starting programs

A program is the file of a tool or of a shell, or a script that names its
interpreter in its first line.

The modules below `Host` describe one machine on which compilers are started: its
files, its shells and the tools that scripts call.  An analysis takes a launcher as
it is, so nothing that is said about analyses depends on them; they are for runs in
which a script stands for a compiler.

Main definitions:

- `interpreter?`: the interpreter that the first line of a script names.
- `Host.start`: start the program at a path.
- `Host.launcher`: how programs are started in an environment.
-/

namespace SyntaxCensus

/-! ## Interpreters -/

/-- A blank in the first line of a script. -/
def isLineBlank (c : Char) : Bool :=
  c = ' ' || c = '\t'

/-- How many octets of a script are looked at. -/
def scriptBuffer : Nat := 256

/-- The first line of a script behind its mark.  A line that is too long is cut
off; then at least the path must be complete. -/
def firstLine? (content : NarrowText) : Option NarrowText :=
  let buffer := content.take scriptBuffer
  if buffer.contains '\n' then some ((buffer.takeWhile (· ≠ '\n')).drop 2)
  else if content.length < scriptBuffer then some (buffer.drop 2)
  else
    let line := (buffer.take (scriptBuffer - 1)).drop 2
    if (line.dropWhile isLineBlank).any isLineBlank then some line else none

/-- The interpreter that the first line of a script names, with the argument
that it is given. -/
def interpreter? (content : NarrowText) : Option (NarrowText × List NarrowText) :=
  match content with
  | '#' :: '!' :: _ =>
      match firstLine? content with
      | none => none
      | some line =>
          let line := ((line.reverse.dropWhile isLineBlank).reverse).dropWhile isLineBlank
          let ends (c : Char) : Bool := isLineBlank c || c = Char.ofNat 0
          let path := line.takeWhile fun c => !ends c
          let rest := line.dropWhile fun c => !ends c
          let argument := (rest.dropWhile isLineBlank).takeWhile (· ≠ Char.ofNat 0)
          if path.isEmpty then none
          else some (path, if argument.isEmpty then [] else [argument])
  | _ => none

namespace Host

/-- How many files are looked at on the way to a program: scripts, and the
interpreter at last. -/
def maxInterpreters : Nat := 6

/-- Run an installed program. -/
def runInstalled (start : Starter) (name : String) (words : List NarrowText) (s : Process) :
    Except SystemFault (Ending × Process) :=
  match Installation.tool? name with
  | some tool => .ok (Work.finish (tool start (words.headD []) words.tail) s)
  | none =>
      match Installation.shells.find? fun shell => shell.1 = name with
      | some (_, extended) => .ok (Shell.invoke extended start words s)
      | none => .error .notExecutable

/-- Start the program at a path as a process that is already set up; at most
`limit` files are looked at. -/
def execute (start : Starter) (path : NarrowText) (words : List NarrowText) (s : Process) :
    Nat → Except SystemFault (Ending × Process)
  | 0 => .error .tooManyLinks
  | limit + 1 =>
      match s.files.find (NarrowText.toString path) with
      | .error fault => .error fault
      | .ok (_, .file octets true) =>
          if s.refusesSize words then .error .argumentsTooLong
          else
            let content := NarrowText.ofOctets octets
            match Installation.programName? content, interpreter? content with
            | some name, _ => runInstalled start name words s
            | none, some (interpreter, extra) =>
                execute start interpreter (interpreter :: extra ++ path :: words.tail) s limit
            | none, none => .error .notExecutable
      | .ok _ => .error .permissionDenied

/-- Start the program at a path, when processes may start each other at most
`depth` times in a row. -/
def start : Nat → Starter
  | 0 => fun _ _ _ => .error (.other "Resource temporarily unavailable")
  | depth + 1 => fun path words s => execute (start depth) path words s maxInterpreters

/-- How deep processes may be nested. -/
def maxProcesses : Nat := 500

/-- A text that cannot be handed to a program. -/
def holdsZero (text : String) : Bool :=
  text.toList.contains (Char.ofNat 0)

/-- The variables that programs find in any case. -/
def standardEnvironment : Environment :=
  [("PATH", "/usr/local/sbin:/usr/local/bin:/usr/sbin:/usr/bin:/sbin:/bin"), ("HOME", "/root")]

/-- An environment together with the variables that are there in any case. -/
def completed (environment : Environment) : Environment :=
  environment ++ standardEnvironment.filter fun entry => (environment.get? entry.1).isNone

/-- The number of the process from which programs are started. -/
def firstNumber : Nat := 4000

/-- Start the first program among places.  A file without a mark that says how
it is run is not started. -/
def startFirst (words : List NarrowText) (s : Process) (refused : Option SystemFault) :
    List NarrowText → Except SystemFault (Ending × Process)
  | [] => .error (refused.getD .notFound)
  | place :: rest =>
      match start maxProcesses place words s with
      | .ok done => .ok done
      | .error fault =>
          match fault with
          | .notFound | .notDirectory => startFirst words s refused rest
          | .permissionDenied => startFirst words s (some fault) rest
          | _ => .error fault

/-- The process of a program with an input and two channels. -/
def processFor (environment : Environment) (input : List UInt8) (files : FileSystem) : Process :=
  { files
    streams := #[.source (NarrowText.ofOctets input), .sink [], .sink []]
    descriptors := [(0, 0), (1, 1), (2, 2)]
    environment := (completed environment).map fun (name, value) =>
      (NarrowText.ofString name, NarrowText.ofString value)
    number := firstNumber + 1
    parent := firstNumber
    lastNumber := firstNumber + 1 }

/-- How programs are started in an environment. -/
def launcher (environment : Environment) : Launcher FileSystem :=
  fun program arguments input files =>
    if holdsZero program || arguments.any holdsZero then
      (.error (.notStarted .zeroInArgument), files)
    else if program.isEmpty then (.error (.notStarted .notFound), files)
    else
      let s := processFor environment input files
      let name := NarrowText.ofString program
      let words := name :: arguments.map NarrowText.ofString
      if !name.contains '/' && decide (FileSystem.maxName < name.length) then
        (.error (.notStarted .nameTooLong), files)
      else
        match startFirst words s none (placesOf s.searchPath name) with
        | .error fault => (.error (.notStarted fault), files)
        | .ok (ending, after) =>
            (.ok
              { output := NarrowText.toOctets (after.writtenTo 1)
                diagnostics := NarrowText.toOctets (after.writtenTo 2)
                unread := ((after.streams[0]?).getD default).unread.length
                ending },
              { after.files with working := files.working })

end Host
end SyntaxCensus
