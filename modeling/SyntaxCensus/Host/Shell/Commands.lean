import SyntaxCensus.Host.Process.Starting
import SyntaxCensus.Host.Shell.Builtin.Control
import SyntaxCensus.Host.Shell.Builtin.Declaring
import SyntaxCensus.Host.Shell.Builtin.Printing
import SyntaxCensus.Host.Shell.Builtin.Testing
import SyntaxCensus.Host.Shell.Builtin.Variables
import SyntaxCensus.Host.Shell.Reader

/-!
# Names of commands

A name stands for a command that ends what it is part of when it fails, for a
function, for another command of the shell, or for a program.

Main definitions:

- `Shell.builtins`: the commands of the shell that run nothing else.
- `State.resolve`: what a name stands for.
- `State.describe`: the same in words.
-/

namespace SyntaxCensus
namespace Shell

/-- The commands of a shell that run nothing else. -/
def plainBuiltins : List (String × Builtin) :=
  [(":", Builtin.nothing), ("true", Builtin.nothing), ("false", Builtin.failure),
    ("echo", Builtin.echo), ("printf", Builtin.printf), ("test", Builtin.test),
    ("[", Builtin.bracket), ("export", Builtin.export), ("readonly", Builtin.readonly),
    ("unset", Builtin.unset), ("local", Builtin.local), ("shift", Builtin.shift),
    ("set", Builtin.set), ("read", Builtin.read), ("getopts", Builtin.getopts),
    ("alias", Builtin.synonym), ("unalias", Builtin.unalias), ("exit", Builtin.exit),
    ("return", Builtin.return), ("break", Builtin.break), ("continue", Builtin.continue),
    ("trap", Builtin.trap), ("kill", Builtin.kill), ("cd", Builtin.cd), ("chdir", Builtin.cd),
    ("pwd", Builtin.pwd), ("umask", Builtin.umask), ("ulimit", Builtin.ulimit),
    ("times", Builtin.times), ("jobs", Builtin.nothing)]

/-- The commands that the extended language adds or gives another meaning. -/
def richBuiltins : List (String × Builtin) :=
  [("echo", Builtin.echoWithOptions), ("printf", Builtin.printfWithOptions),
    ("test", Builtin.testRich), ("[", Builtin.bracketRich),
    ("export", Builtin.exportVariables), ("readonly", Builtin.protectVariables),
    ("unset", Builtin.forget), ("local", Builtin.keepLocal), ("shift", Builtin.shiftArguments),
    ("declare", Builtin.declareVariables), ("typeset", Builtin.declareVariables),
    ("let", Builtin.letCalculate), ("shopt", Builtin.setSettings),
    ("mapfile", Builtin.readRow), ("readarray", Builtin.readRow),
    ("disown", Builtin.nothing), ("enable", Builtin.nothing)]

/-- The commands of the shell that run nothing else. -/
def builtins (extended : Bool) : List (String × Builtin) :=
  if extended then richBuiltins ++ plainBuiltins.filter fun entry => entry.1 ≠ "chdir"
  else plainBuiltins

/-- The commands of the shell that run other commands. -/
def controls (extended : Bool) : List String :=
  [".", "eval", "exec", "command", "wait", "type", "hash", "fg", "bg"] ++
    if extended then ["source", "builtin"] else []

/-- The commands of the shell whose faults end it. -/
def specials : List String :=
  [".", ":", "break", "continue", "eval", "exec", "exit", "export", "local", "readonly", "return",
    "set", "shift", "times", "trap", "unset"]

/-- The commands of the shell whose arguments are assignments. -/
def declarations (extended : Bool) : List String :=
  ["export", "readonly", "local"] ++ if extended then ["declare", "typeset"] else []

/-- The command of the shell with a name, unless it runs other commands. -/
def builtin? (extended : Bool) (name : NarrowText) : Option Builtin :=
  ((builtins extended).find? fun entry => entry.1.toList = name).map Prod.snd

/-- A name is one from a list. -/
def isNamed (names : List String) (name : NarrowText) : Bool :=
  names.any fun known => known.toList = name

/-- What a name stands for. -/
inductive Meaning where
  | special
  | function (body : Command)
  | builtin
  | program

namespace State

/-- What a name stands for; functions can be passed over.  In the extended
language only the command is special whose redirections stay. -/
def resolve (s : State) (functions : Bool) (name : NarrowText) : Meaning :=
  let function? := if functions then s.function? name else none
  let isSpecial :=
    if s.extended then function?.isNone && name = "exec".toList else isNamed specials name
  if isSpecial then .special
  else
    match function? with
    | some body => .function body
    | none =>
        if (builtin? s.extended name).isSome || isNamed (controls s.extended) name then .builtin
        else .program

/-- Where programs are looked for. -/
def searchPath (s : State) : NarrowText :=
  (s.value? "PATH".toList).getD defaultSearchPath

/-- The path of the program with a name. -/
def program? (s : State) (name : NarrowText) : Option NarrowText :=
  (placesOf s.searchPath name).find? fun place =>
    match s.files.find (NarrowText.toString place) with
    | .ok (_, .file _ executable) => executable
    | _ => false

/-- What a name stands for, in words, or in the form of a command. -/
def describe (s : State) (brief : Bool) (name : NarrowText) : Option NarrowText :=
  let line (words : String) : NarrowText := name ++ words.toList ++ ['\n']
  let kind (words : String) : NarrowText := if brief then name ++ ['\n'] else line words
  if isKeyword s.extended name then some (kind " is a shell keyword")
  else
    match s.aliases.find? fun entry => entry.1 = name with
    | some (_, value) =>
        some (if brief then "alias ".toList ++ name ++ '=' :: Run.inQuotes value ++ ['\n']
          else if s.extended then name ++ " is aliased to \x60".toList ++ value ++ ['\'', '\n']
          else name ++ " is an alias for ".toList ++ value ++ ['\n'])
    | none =>
        match s.resolve true name with
        | .special =>
            some (kind
              (if s.extended then " is a shell builtin" else " is a special shell builtin"))
        | .function _ =>
            some (kind (if s.extended then " is a function" else " is a shell function"))
        | .builtin => some (kind " is a shell builtin")
        | .program =>
            match s.program? name with
            | some path =>
                some (if brief then path ++ ['\n']
                  else if !s.tracked.contains name then name ++ " is ".toList ++ path ++ ['\n']
                  else if s.extended then
                    name ++ " is hashed (".toList ++ path ++ [')', '\n']
                  else name ++ " is a tracked alias for ".toList ++ path ++ ['\n'])
            | none => none

/-- What a name stands for, in one word. -/
def kindOf? (s : State) (name : NarrowText) : Option String :=
  if isKeyword s.extended name then some "keyword"
  else if s.aliases.any fun entry => entry.1 = name then some "alias"
  else
    match s.resolve true name with
    | .special | .builtin => some "builtin"
    | .function _ => some "function"
    | .program => if (s.program? name).isSome then some "file" else none

end State

/-- Describe what names stand for. -/
def describeAll (brief : Bool) : List NarrowText → Run Unit
  | [] => return
  | name :: rest => do
      let s ← get
      match s.describe brief name with
      | some text => do
          Run.print text
          if !brief && !s.extended && s.kindOf? name = some "file" then
            modify fun s => s.track name
      | none => do
          if !brief then
            if s.extended then Run.complain (name ++ ": not found".toList)
            else Run.print (name ++ ": not found\n".toList)
          Run.finish (if s.extended then 1 else 127)
      describeAll brief rest

/-- Look for the programs of names. -/
def seekAll : List NarrowText → Run Unit
  | [] => return
  | name :: rest => do
      let s ← get
      if s.kindOf? name = none then
        Run.complain (name ++ ": not found".toList)
        Run.finish 1
      seekAll rest

/-- Tell what names stand for in one word each, or where their programs are. -/
def classifyAll (paths forced : Bool) : List NarrowText → Run Unit
  | [] => return
  | name :: rest => do
      let s ← get
      let kind := s.kindOf? name
      let path? := if forced || kind = some "file" then s.program? name else none
      let text? := if paths then path? else kind.map String.toList
      match text? with
      | some text => Run.print (text ++ ['\n'])
      | none => if !paths || kind.isNone then Run.finish 1
      classifyAll paths forced rest

end Shell
end SyntaxCensus
