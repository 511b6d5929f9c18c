import SyntaxCensus.Command.Analyze
import SyntaxCensus.Process.Basic
import SyntaxCensus.Text.Lines

/-!
# Options on the command line

Arguments are read from left to right: options for the program, the name of a
command, and options for the command.  An option has a long name after two
dashes or a letter after one dash; its value is attached to it or is the next
argument.  The first argument that does not fit ends the reading, and so does a
question for help or for the version.

Main definitions:

- `Invocation`: what the arguments ask for.
- `Invocation.read`: the invocation that arguments spell.
-/

namespace SyntaxCensus

/-- The commands of the program. -/
inductive CommandName where
  | analyze
  | validate
  | version
  deriving DecidableEq, Repr

/-- The command of a name. -/
def CommandName.find? : String → Option CommandName
  | "analyze" => some .analyze
  | "validate" => some .validate
  | "version" => some .version
  | _ => none

/-- The options of the program and of its commands. -/
inductive OptionName where
  | directory
  | extension
  | allFiles
  | output
  | summary
  | top
  | current
  | legacy
  | file
  | verbose
  | help
  | programVersion
  deriving DecidableEq, Repr

namespace OptionName

/-- The option belongs to a command, or, without one, to the program. -/
def belongs (option : OptionName) (command : Option CommandName) : Bool :=
  match option with
  | .verbose | .help => true
  | .programVersion => command = none
  | .file => command = some .validate
  | _ => command = some .analyze

/-- The option takes a value. -/
def takesValue : OptionName → Bool
  | .directory | .extension | .output | .top | .current | .legacy | .file => true
  | .allFiles | .summary | .verbose | .help | .programVersion => false

/-- The option of a long name. -/
def ofLong? : String → Option OptionName
  | "dir" => some .directory
  | "ext" => some .extension
  | "all-files" => some .allFiles
  | "output" => some .output
  | "summary" => some .summary
  | "top" => some .top
  | "solc" => some .current
  | "solc-legacy" => some .legacy
  | "file" => some .file
  | "verbose" => some .verbose
  | "help" => some .help
  | "version" => some .programVersion
  | _ => none

/-- The option of a letter. -/
def ofLetter? : Char → Option OptionName
  | 'd' => some .directory
  | 'o' => some .output
  | 'f' => some .file
  | 'v' => some .verbose
  | 'h' => some .help
  | 'V' => some .programVersion
  | _ => none

end OptionName

/-- Why the reading of arguments ends without an invocation. -/
inductive Dismissal where
  | misuse
  | help
  | programVersion
  deriving DecidableEq, Repr

/-- The options that were given, with their values. -/
abbrev Given := List (OptionName × String)

namespace Given

/-- The value of an option. -/
def value? (given : Given) (option : OptionName) : Option String :=
  (given.find? fun pair => pair.1 = option).map Prod.snd

/-- The option was given. -/
def has (given : Given) (option : OptionName) : Bool :=
  (given.value? option).isSome

end Given

/-- The largest number that an option may have as its value. -/
def maxOptionNumber : Nat := 18446744073709551615

/-- The number that digits spell, if there are any and it is not too large. -/
def readDigits? (digits : List Char) : Option Nat :=
  if digits.isEmpty || !digits.all Char.isDigit then none
  else
    let number := digits.foldl (fun number c => number * 10 + (c.toNat - '0'.toNat)) 0
    if number ≤ maxOptionNumber then some number else none

/-- The number that a value spells: digits, with a plus sign before them or
not. -/
def readNumber? (value : String) : Option Nat :=
  match value.toList with
  | '+' :: digits => readDigits? digits
  | digits => readDigits? digits

/-- A value is of the form that an option asks for. -/
def OptionName.accepts (option : OptionName) (value : String) : Bool :=
  match option with
  | .directory | .output | .file => !value.isEmpty
  | .top => (readNumber? value).isSome
  | _ => true

/-- Add an option with its value, which is possible once for each option. -/
def Given.add (given : Given) (option : OptionName) (value : String) : Except Dismissal Given :=
  match option with
  | .help => .error .help
  | .programVersion => .error .programVersion
  | _ =>
      if given.has option || !option.accepts value then .error .misuse
      else .ok ((option, value) :: given)

/-! ## Reading arguments -/

/-- The options so far, and one that still waits for its value. -/
structure Progress where
  given : Given := []
  waiting : Option OptionName := none

/-- Read an argument that begins with two dashes. -/
def readLong (command : Option CommandName) (given : Given) (text : List Char) :
    Except Dismissal Progress :=
  let name := text.takeWhile (· ≠ '=')
  match OptionName.ofLong? (String.ofList name), text.dropWhile (· ≠ '=') with
  | none, _ => .error .misuse
  | some option, attached =>
      if !option.belongs command then .error .misuse
      else
        match option.takesValue, attached with
        | true, _ :: value => (given.add option (String.ofList value)).map (⟨·, none⟩)
        | true, [] => .ok ⟨given, some option⟩
        | false, _ :: _ => .error .misuse
        | false, [] => (given.add option "").map (⟨·, none⟩)

/-- Read the letters after one dash.  What follows a letter that takes a value
is the value. -/
def readLetters (command : Option CommandName) (given : Given) :
    List Char → Except Dismissal Progress
  | [] => .ok ⟨given, none⟩
  | c :: rest =>
      match OptionName.ofLetter? c with
      | none => .error .misuse
      | some option =>
          if !option.belongs command then .error .misuse
          else if !option.takesValue then do
            readLetters command (← given.add option "") rest
          else
            match rest with
            | [] => .ok ⟨given, some option⟩
            | '=' :: value => (given.add option (String.ofList value)).map (⟨·, none⟩)
            | value => (given.add option (String.ofList value)).map (⟨·, none⟩)

/-- Read one argument that is no name of a command. -/
def readArgument (command : Option CommandName) (progress : Progress) (argument : String) :
    Except Dismissal Progress :=
  match argument.toList, progress.waiting with
  | '-' :: _ :: _, some _ => .error .misuse
  | '-' :: '-' :: text, none => readLong command progress.given text
  | '-' :: c :: rest, none => readLetters command progress.given (c :: rest)
  | _, some option => (progress.given.add option argument).map (⟨·, none⟩)
  | _, none => .error .misuse

/-- The answer to a question for help about commands. -/
def readHelp : List String → Dismissal
  | [] => .help
  | [name] => if name = "help" || (CommandName.find? name).isSome then .help else .misuse
  | _ => .misuse

/-- Read options up to the end, or to the name of a command if none was named
before.  Two dashes say that no option follows, and nothing else may. -/
def readOptions (command : Option CommandName) (progress : Progress) :
    List String → Except Dismissal (Given × Option (CommandName × List String))
  | [] => if progress.waiting.isSome then .error .misuse else .ok (progress.given, none)
  | argument :: rest =>
      let goOn : Except Dismissal (Given × Option (CommandName × List String)) :=
        if argument = "--" then
          if progress.waiting.isSome || !rest.isEmpty then .error .misuse
          else .ok (progress.given, none)
        else do
          readOptions command (← readArgument command progress argument) rest
      if command.isSome || progress.waiting.isSome then goOn
      else if argument = "help" then .error (readHelp rest)
      else
        match CommandName.find? argument with
        | some name => .ok (progress.given, some (name, rest))
        | none => goOn

/-! ## Invocations -/

/-- What the program is asked to do. -/
inductive Request where
  | analyze (settings : Settings)
  | validate (file : String)
  | version
  deriving DecidableEq, Repr

/-- A request, and whether to tell more about the work on it. -/
structure Invocation where
  verbose : Bool
  request : Request
  deriving DecidableEq, Repr

/-- The settings that options spell.  A program that no option names is taken
from the environment. -/
def Settings.ofGiven (environment : Environment) (given : Given) : Settings :=
  let base : Settings := {}
  { directory := (given.value? .directory).getD base.directory
    extension :=
      if given.has .allFiles then none
      else (given.value? .extension).or base.extension
    output := given.value? .output
    summary := given.has .summary
    top := ((given.value? .top).bind readNumber?).getD base.top
    current := ((given.value? .current).or (environment.get? "SOLC")).getD base.current
    legacy := ((given.value? .legacy).or (environment.get? "SOLC_LEGACY")).getD base.legacy }

/-- The request that a command with its options makes. -/
def Request.ofGiven (environment : Environment) (given : Given) :
    CommandName → Except Dismissal Request
  | .analyze =>
      if given.has .allFiles && given.has .extension then .error .misuse
      else .ok (.analyze (Settings.ofGiven environment given))
  | .validate =>
      match given.value? .file with
      | some file => .ok (.validate file)
      | none => .error .misuse
  | .version => .ok .version

/-- The invocation that arguments spell. -/
def Invocation.read (environment : Environment) (arguments : List String) :
    Except Dismissal Invocation := do
  match ← readOptions none {} arguments with
  | (_, none) => throw .misuse
  | (before, some (command, rest)) =>
      let (given, _) ← readOptions (some command) {} rest
      let request ← Request.ofGiven environment given command
      return ⟨before.has .verbose || given.has .verbose, request⟩

end SyntaxCensus
