import SyntaxCensus.Host.Shell.Builtin.Basic
import SyntaxCensus.Host.Shell.Fields
import SyntaxCensus.Host.Shell.Source

/-!
# Variables, arguments and settings

The commands that change what a shell keeps: variables and their attributes,
the arguments, the modes, other names of commands; and the one that reads
options into variables.

Main definitions:

- `Builtin.«export»`, `Builtin.unset`, `Builtin.«local»`, `Builtin.set`: the
  variables.
- `Builtin.getopts`: the next option of a list of arguments.
- `Settings.read`: modes and arguments as a command spells them.
-/

namespace SyntaxCensus
namespace Shell

/-! ## Showing variables -/

/-- The variables in the order of their names. -/
def State.sortedBindings (s : State) : List (NarrowText × Variable) :=
  s.bindings.mergeSort fun a b => decide (String.ofList a.1 ≤ String.ofList b.1)

/-- A variable as a command that sets it. -/
def shownBinding (command : NarrowText) (name : NarrowText) (entry : Variable) : NarrowText :=
  command ++ name ++
    (match entry.value with
    | some value => '=' :: Run.inQuotes value
    | none => []) ++ ['\n']

/-- A word that may assign: its name, and the value if there is one. -/
def splitAssignment (word : NarrowText) : NarrowText × Option NarrowText :=
  match word.dropWhile (· ≠ '=') with
  | _ :: value => (word.takeWhile (· ≠ '='), some value)
  | [] => (word, none)

/-- The name of a variable. -/
def checkName (name : NarrowText) : Run Unit :=
  if isName name then return
  else
    Run.faultIn (name ++ ": bad variable name".toList)
      ('\x60' :: name ++ "': not a valid identifier".toList)

namespace Builtin

/-! ## Attributes -/

/-- Change variables that words name, and give those a value that have one
written behind them. -/
def declare (change : Variable → Variable) (words : List NarrowText) : Run Unit := do
  for word in words do
    let (name, value) := splitAssignment word
    checkName name
    match value with
    | some value => Run.assign name value
    | none => pure ()
    modify fun s => s.putVariable name (change ((s.lookup? name).getD {}))

/-- Show the variables that have an attribute, or give it to others. -/
def marking (name : String) (test : Variable → Bool) (change : Variable → Variable) :
    Builtin := fun arguments => do
  let (_, words) ← readOptions "p" arguments
  if words.isEmpty then
    let s ← get
    Run.show ((s.sortedBindings.filter fun entry => test entry.2).flatMap fun entry =>
      shownBinding (name.toList ++ [' ']) entry.1 entry.2)
  else do
    declare change words
    Run.finish 0

/-- Hand variables to the programs that are started. -/
def «export» : Builtin :=
  marking "export" Variable.exported fun entry => { entry with exported := true }

/-- Protect variables. -/
def «readonly» : Builtin :=
  marking "readonly" Variable.readOnly fun entry => { entry with readOnly := true }

/-- Forget variables or functions. -/
def unset : Builtin := fun arguments => do
  let (options, words) ← readOptions "vf" arguments
  if options.any fun option => option.1 = 'f' then
    modify fun s =>
      { s with functions := s.functions.filter fun entry => !words.contains entry.1 }
  else
    for word in words do
      checkName word
      Run.unassign word
  Run.finish 0

/-- Keep the variables of a function apart from those outside. -/
def «local» : Builtin := fun words => do
  match (← get).scopes with
  | [] => Run.fault "not in a function".toList
  | scope :: outer => do
      let mut scope := scope
      for word in words do
        let (name, value) := splitAssignment word
        if word ≠ ['-'] then
          checkName name
          let s ← get
          if !scope.any fun kept => kept.1 = name then
            scope := (name, s.lookup? name) :: scope
          set { s with scopes := scope :: outer }
          match value with
          | some value => Run.assign name value
          | none => pure ()
      Run.finish 0

/-- Forget the first arguments. -/
def shift : Builtin := fun words => do
  let count ←
    match words with
    | [] => pure 1
    | word :: _ => Run.naturalArgument word
  let s ← get
  if s.arguments.length < count then Run.fault "can't shift that many".toList
  set { s with arguments := s.arguments.drop count }
  Run.finish 0

end Builtin

/-! ## Settings -/

namespace Settings

/-- The modes of a plain shell: their names and letters. -/
def plainModes : List (String × Char) :=
  [("errexit", 'e'), ("noglob", 'f'), ("ignoreeof", 'I'), ("interactive", 'i'), ("monitor", 'm'),
    ("noexec", 'n'), ("stdin", 's'), ("xtrace", 'x'), ("verbose", 'v'), ("vi", 'V'),
    ("emacs", 'E'), ("noclobber", 'C'), ("allexport", 'a'), ("notify", 'b'), ("nounset", 'u')]

/-- The mode in which a pipeline fails if one of its commands does. -/
def pipeMode : Char := '|'

/-- The modes of a shell that knows the extended language.  Those without a
letter of their own are known by other marks. -/
def extendedModes : List (String × Char) :=
  [("allexport", 'a'), ("braceexpand", 'B'), ("emacs", '('), ("errexit", 'e'), ("errtrace", 'E'),
    ("functrace", 'T'), ("hashall", 'h'), ("histexpand", 'H'), ("history", ')'),
    ("ignoreeof", '<'), ("interactive-comments", '#'), ("keyword", 'k'), ("monitor", 'm'),
    ("noclobber", 'C'), ("noexec", 'n'), ("noglob", 'f'), ("nolog", '>'), ("notify", 'b'),
    ("nounset", 'u'), ("onecmd", 't'), ("physical", 'P'), ("pipefail", pipeMode),
    ("posix", '@'), ("privileged", 'p'), ("stdin", 's'), ("verbose", 'v'), ("vi", '~'),
    ("xtrace", 'x')]

/-- The modes of a shell: their names and letters. -/
def modes (extended : Bool) : List (String × Char) :=
  if extended then extendedModes else plainModes

/-- The modes of a shell in the order in which their letters are shown. -/
def letters (extended : Bool) : NarrowText :=
  if extended then "abefhkmnptuvxBCEHPTis|()<#>@~".toList else plainModes.map Prod.snd

/-- The modes that are on in a shell from the beginning. -/
def initial (extended : Bool) : NarrowText :=
  if extended then ['h', 'B', '#'] else []

/-- Switch a mode. -/
def switch (on : Bool) (letter : Char) (s : State) : State :=
  let others := s.modes.filter (· ≠ letter)
  { s with
    modes :=
      if on then (letters s.extended).filter fun mode => mode = letter || others.contains mode
      else others }

/-- The modes as they are, each on a line. -/
def shown (s : State) : NarrowText :=
  let state (letter : Char) : NarrowText := if s.isOn letter then "on\n".toList else "off\n".toList
  let named := (modes s.extended).filter fun mode => !s.extended || mode.2 ≠ 's'
  if s.extended then
    named.flatMap fun (name, letter) =>
      name.toList ++ List.replicate (15 - name.length) ' ' ++ '\t' :: state letter
  else
    "Current option settings\n".toList ++
      named.flatMap fun (name, letter) =>
        name.toList ++ List.replicate (16 - name.length) ' ' ++ state letter

/-- The modes as commands that set them. -/
def shownAsCommands (s : State) : NarrowText :=
  let named := (modes s.extended).filter fun mode => !s.extended || mode.2 ≠ 's'
  named.flatMap fun (name, letter) =>
    (if s.isOn letter then "set -o ".toList else "set +o ".toList) ++ name.toList ++ ['\n']

/-- Switch the mode of a name. -/
def switchNamed (on : Bool) (name : NarrowText) : Run Unit := do
  let s ← get
  match (modes s.extended).find? fun mode => mode.1.toList = name with
  | some (_, letter) => modify (switch on letter)
  | none =>
      if s.extended then
        Run.complain (name ++ ": invalid option name".toList)
        Run.finish 2
        throw .failing
      else Run.fault ("Illegal option -o ".toList ++ name)

/-- Switch the modes of letters.  The result says that the name of a mode is
expected, and that a command follows. -/
def switchAll (starting on : Bool) : NarrowText → Run (Bool × Bool)
  | [] => return (false, false)
  | c :: rest => do
      let s ← get
      if c = 'o' then
        let (_, command) ← switchAll starting on rest
        return (true, command)
      else if c = 'c' ∧ starting = true then
        let (named, _) ← switchAll starting on rest
        return (named, true)
      else if (modes s.extended).any fun mode => mode.2 = c then
        modify (switch on c)
        switchAll starting on rest
      else if c = 'l' ∧ starting = true then switchAll starting on rest
      else if s.extended then Run.misuse ('-' :: c :: ": invalid option".toList)
      else Run.fault ("Illegal option -".toList ++ [c])

/-- What modes leave of a list of words: what follows them, whether that takes
the place of the arguments in any case, and whether a command follows. -/
structure Outcome where
  rest : List NarrowText
  replaces : Bool
  command : Bool

/-- Read modes from the front of a list of words; `starting` says that a shell
is being started. -/
def read (starting : Bool) (command : Bool) : List NarrowText → Run Outcome
  | [] => return ⟨[], false, command⟩
  | word :: rest => do
      match word with
      | ['-'] => do
          if !starting then modify fun s => switch false 'x' (switch false 'v' s)
          return ⟨rest, !rest.isEmpty, command⟩
      | ['-', '-'] => return ⟨rest, true, command⟩
      | sign :: letters =>
          if sign ≠ '-' ∧ sign ≠ '+' then return ⟨word :: rest, true, command⟩
          else do
            let on := decide (sign = '-')
            let (named, commands) ← switchAll starting on letters
            if named then
              match rest with
              | [] => do
                  let s ← get
                  Run.print (if on then shown s else shownAsCommands s)
                  return ⟨[], false, command || commands⟩
              | name :: others => do
                  switchNamed on name
                  read starting (command || commands) others
            else read starting (command || commands) rest
      | [] => return ⟨word :: rest, true, command⟩

end Settings

namespace Builtin

/-- Show the variables, or change modes and arguments. -/
def set : Builtin := fun words => do
  if words.isEmpty then
    let s ← get
    Run.show ((s.sortedBindings.filter fun entry => entry.2.value.isSome).flatMap fun entry =>
      shownBinding [] entry.1 entry.2)
  else do
    let outcome ← Settings.read false false words
    if outcome.replaces then modify fun s => { s with arguments := outcome.rest }
    Run.finish 0

/-! ## Options of scripts -/

/-- Where the next option stands: in the word of a number, behind a number of
its characters. -/
structure OptionPlace where
  word : Nat
  offset : Nat
  deriving DecidableEq, Repr

/-- The next option of a list of words: its letter, or a mark for a fault; its
value, if it has one; and a complaint. -/
structure FoundOption where
  letter : Char
  value : Option NarrowText
  complaint : Option OptionFault
  place : OptionPlace
  done : Bool

/-- The letters of the option that is next, its word passed by. -/
def optionLetters? (words : List NarrowText) (place : OptionPlace) :
    Option (NarrowText × Nat) ⊕ Nat :=
  let current :=
    if place.word ≤ 1 ∨ place.offset = 0 then []
    else (words.getD (place.word - 2) []).drop place.offset
  match current with
  | _ :: _ => .inl (some (current, place.word))
  | [] =>
      match words[place.word - 1]? with
      | some ['-', '-'] => .inr (place.word + 1)
      | some ('-' :: c :: rest) => .inl (some (c :: rest, place.word + 1))
      | _ => .inr place.word

/-- The next option of a list of words; a colon in front of the known letters
asks for no complaints. -/
def nextOption (known : NarrowText) (words : List NarrowText) (place : OptionPlace) :
    FoundOption :=
  let quiet := decide (known.head? = some ':')
  match optionLetters? words place with
  | .inr word => ⟨'?', none, none, ⟨word, 0⟩, true⟩
  | .inl none => ⟨'?', none, none, place, true⟩
  | .inl (some (letters, word)) =>
      let letter := letters.headD '?'
      let after := letters.tail
      let here : OptionPlace :=
        ⟨word, if after.isEmpty then 0 else (words.getD (word - 2) []).length - after.length⟩
      if letter = ':' ∨ !known.contains letter then
        if quiet then ⟨'?', some [letter], none, here, false⟩
        else ⟨'?', none, some (.unknown letter), here, false⟩
      else if takesValue known letter then
        match after, words[word - 1]? with
        | _ :: _, _ => ⟨letter, some after, none, ⟨word, 0⟩, false⟩
        | [], some value => ⟨letter, some value, none, ⟨word + 1, 0⟩, false⟩
        | [], none =>
            if quiet then ⟨':', some [letter], none, ⟨word, 0⟩, false⟩
            else ⟨'?', none, some (.noValue letter), ⟨word, 0⟩, false⟩
      else ⟨letter, some [], none, here, false⟩

/-- Put the next option of the arguments into a variable. -/
def getopts : Builtin := fun arguments => do
  match arguments with
  | known :: name :: given => do
      let s ← get
      let words := if given.isEmpty then s.arguments else given
      let word := (Numeral.natural? (s.valueOf "OPTIND")).getD 1
      let place : OptionPlace :=
        if words.length + 1 < word then ⟨1, 0⟩ else ⟨max word 1, s.optionOffset⟩
      let found := nextOption known words place
      match found.complaint with
      | some complaint =>
          if s.extended then
            Run.printDiagnostic (s.name ++ ": ".toList ++ complaint.inWords)
          else Run.printDiagnostic complaint.message
      | none => pure ()
      if !found.done then
        match found.value with
        | some value => Run.assign "OPTARG".toList value
        | none => Run.unassign "OPTARG".toList
      Run.assign "OPTIND".toList (Numeral.ofNat found.place.word)
      checkName name
      Run.assign name [found.letter]
      modify fun s => { s with optionOffset := found.place.offset }
      Run.finish (if found.done then 1 else 0)
  | _ => Run.fault "Usage: getopts optstring var [arg...]".toList

/-! ## Other names of commands -/

/-- Show or set what names of commands stand for. -/
def synonym : Builtin := fun words => do
  let shown (name value : NarrowText) : NarrowText := name ++ '=' :: Run.inQuotes value ++ ['
']
  if words.isEmpty then
    Run.show ((← get).aliases.reverse.flatMap fun entry => shown entry.1 entry.2)
  else do
    let mut status := 0
    for word in words do
      match splitAssignment word with
      | (name, some value) =>
          modify fun s =>
            { s with
              aliases := (name, value) :: s.aliases.filter fun entry => entry.1 ≠ name }
      | (name, none) =>
          match (← get).aliases.find? fun entry => entry.1 = name with
          | some (_, value) => Run.print (shown name value)
          | none => do
              Run.complain (name ++ " not found".toList)
              status := 1
    Run.finish status

/-- Forget what names of commands stand for. -/
def unalias : Builtin := fun arguments => do
  let (options, words) ← readOptions "a" arguments
  if !options.isEmpty then
    modify fun s => { s with aliases := [] }
    Run.finish 0
  else do
    let mut status := 0
    for word in words do
      if (← get).aliases.any fun entry => entry.1 = word then
        modify fun s => { s with aliases := s.aliases.filter fun entry => entry.1 ≠ word }
      else
        Run.complain (word ++ " not found".toList)
        status := 1
    Run.finish status

end Builtin
end Shell
end SyntaxCensus
