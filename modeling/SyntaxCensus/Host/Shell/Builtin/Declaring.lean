import SyntaxCensus.Host.Shell.Builtin.Reading

/-!
# Declaring variables

The commands of the extended language that give attributes to variables, that
calculate, and that change the settings of the shell.

Main definitions:

- `Declaring.declareAll`: give attributes and values to variables.
- `Declaring.shown`: a variable as a command that declares it.
- `Builtin.declareVariables`, `Builtin.keepLocal`: the commands.
- `Builtin.letCalculate`, `Builtin.setSettings`: calculations and settings.
-/

namespace SyntaxCensus
namespace Shell
namespace Declaring

/-! ## Showing variables -/

/-- A value between quotes from which the shell reads it back. -/
def inDoubleQuotes (value : NarrowText) : NarrowText :=
  '"' :: value.flatMap (fun c => if "\"$\\\x60".toList.contains c then ['\\', c] else [c]) ++ ['"']

/-- The key of an element as it is shown. -/
def shownKey (key : NarrowText) : NarrowText :=
  if key.all (fun c => c.isAlphanum || c = '_') && !key.isEmpty then key else inDoubleQuotes key

/-- The elements of a variable as a command assigns them. -/
def shownElements : Elements → NarrowText
  | .numbered entries =>
      '(' :: [' '].intercalate (entries.map fun (number, value) =>
        '[' :: Numeral.ofNat number ++ "]=".toList ++ inDoubleQuotes value) ++ [')']
  | .named entries =>
      '(' :: (entries.flatMap fun (key, value) =>
        '[' :: shownKey key ++ "]=".toList ++ inDoubleQuotes value ++ [' ']) ++ [')']

/-- The letters of the attributes of a variable. -/
def letters (entry : Variable) : NarrowText :=
  let row :=
    match entry.elements with
    | some (.numbered _) => ['a']
    | some (.named _) => ['A']
    | none => []
  let marks :=
    row ++ (if entry.counts then ['i'] else []) ++ (if entry.readOnly then ['r'] else []) ++
      (if entry.exported then ['x'] else [])
  if marks.isEmpty then ['-'] else marks

/-- A variable as a command that declares it. -/
def shown (name : NarrowText) (entry : Variable) : NarrowText :=
  let value :=
    match entry.elements, entry.value with
    | some elements, _ => '=' :: shownElements elements
    | none, some value => '=' :: inDoubleQuotes value
    | none, none => []
  "declare -".toList ++ letters entry ++ ' ' :: name ++ value ++ ['\n']

/-! ## Attributes -/

/-- What is asked for: attributes to give or to take away, by their letters, and
other options. -/
structure Request where
  given : List Char := []
  taken : List Char := []
  words : List NarrowText := []

/-- An attribute or an option is asked for. -/
def Request.wants (request : Request) (letter : Char) : Bool :=
  request.given.contains letter

/-- Read the options of a declaration, each behind a minus or a plus sign. -/
def readRequest (known : NarrowText) (request : Request) : List NarrowText → Run Request
  | [] => return request
  | word :: rest => do
      match word with
      | ['-', '-'] => return { request with words := rest }
      | sign :: c :: more =>
          let options := c :: more
          if sign = '-' ∨ sign = '+' then
            match options.find? fun option => !known.contains option with
            | some option => Run.misuse (sign :: option :: ": invalid option".toList)
            | none =>
                if sign = '-' then
                  readRequest known { request with given := request.given ++ options } rest
                else readRequest known { request with taken := request.taken ++ options } rest
          else return { request with words := word :: rest }
      | _ => return { request with words := word :: rest }

/-- A variable with attributes given and taken away. -/
def Request.mark (request : Request) (entry : Variable) : Variable :=
  let elements :=
    match entry.elements with
    | some elements => some elements
    | none =>
        if request.wants 'A' then some (.named [])
        else if request.wants 'a' then
          some (.numbered (entry.value.toList.map fun value => (0, value)))
        else none
  { entry with
    elements
    counts := (entry.counts || request.wants 'i') && !request.taken.contains 'i'
    exported := (entry.exported || request.wants 'x') && !request.taken.contains 'x' }

/-- What a word of a declaration says: a place, and perhaps a value, which may be
put behind the one that is there. -/
structure Declared where
  place : NarrowText
  appends : Bool
  value : Option NarrowText

/-- What a word of a declaration says. -/
def Declared.ofWord (word : NarrowText) : Declared :=
  match splitAssignment word with
  | (place, none) => ⟨place, false, none⟩
  | (place, some value) =>
      if place.getLast? = some '+' then ⟨place.dropLast, true, some value⟩
      else ⟨place, false, some value⟩

/-- Give a value to a variable that is declared. -/
def giveValue (declared : Declared) (value : NarrowText) : Run Unit := do
  let (name, index) := Run.splitIndex declared.place
  let s ← get
  let counts := (s.lookup? name).any Variable.counts
  let key ←
    match index with
    | some index => Run.elementKey name index
    | none => pure ['0']
  let old := if declared.appends then (s.element? name key).getD [] else []
  let value ←
    if counts then
      let sum := if declared.appends && !old.isEmpty then old ++ '+' :: value else value
      pure (Numeral.ofInt (← Run.calculate sum))
    else pure (old ++ value)
  match index with
  | some _ => Run.putElement name key value
  | none => Run.assign name value

/-- Begin a variable of a function that has nothing to do with the one
outside. -/
def beginLocal (name : NarrowText) : Run Unit := do
  let s ← get
  match s.scopes with
  | [] => return
  | scope :: outer =>
      if !scope.any fun kept => kept.1 = name then
        let old := s.lookup? name
        let exported := old.any Variable.exported
        set { s.putVariable name { exported } with
          scopes := ((name, old) :: scope) :: outer }

/-- Complain about a variable that must not change.  The command is told unless
it is one that gives a single attribute. -/
def refuse (named : Bool) (name : NarrowText) : Run Unit := do
  let outer := (← get).commandName
  if !named then modify fun s => { s with commandName := none }
  Run.complain (name ++ ": readonly variable".toList)
  modify fun s => { s with commandName := outer }

/-- Carry out a word of a declaration, and tell whether that was possible. -/
def declareOne (isLocal named : Bool) (request : Request) (word : NarrowText) : Run Bool := do
  let declared := Declared.ofWord word
  let name := (Run.splitIndex declared.place).1
  if !isName name then
    Run.complain ('\x60' :: word ++ "': not a valid identifier".toList)
    return false
  let s ← get
  if (s.lookup? name).any Variable.readOnly && (declared.value.isSome || isLocal) then
    refuse named name
    return false
  if isLocal then beginLocal name
  modify fun s => s.putVariable name (request.mark ((s.lookup? name).getD {}))
  match declared.value with
  | some value => giveValue declared value
  | none => pure ()
  if request.wants 'r' then
    modify fun s =>
      s.putVariable name { (s.lookup? name).getD {} with readOnly := true }
  return true

/-- Carry out the words of a declaration. -/
def declareAll (isLocal named : Bool) (request : Request) : Run Unit := do
  let mut status := 0
  for word in request.words do
    if !(← declareOne isLocal named request word) then status := 1
  Run.finish status

/-- Show variables, those of given names or all with an attribute. -/
def showAll (request : Request) (test : Variable → Bool) : Run Unit := do
  let s ← get
  if request.words.isEmpty then
    Run.show ((s.sortedBindings.filter fun entry => test entry.2).flatMap fun entry =>
      shown entry.1 entry.2)
  else
    let mut status := 0
    for name in request.words do
      match s.lookup? name with
      | some entry => Run.print (shown name entry)
      | none => do
          Run.complain (name ++ ": not found".toList)
          status := 1
    Run.finish status

/-- Show the names of functions that are known. -/
def showFunctions (request : Request) : Run Unit := do
  let s ← get
  if request.words.isEmpty then
    let names := (s.functions.map Prod.fst).mergeSort fun a b =>
      decide (String.ofList a ≤ String.ofList b)
    Run.show (names.flatMap fun name => "declare -f ".toList ++ name ++ ['\n'])
  else
    let mut status := 0
    for name in request.words do
      if (s.function? name).isSome then
        if request.wants 'F' then Run.print (name ++ ['\n'])
      else status := 1
    Run.finish status

end Declaring

namespace Builtin

open Declaring

/-! ## Declarations -/

/-- The letters of attributes and options of declarations. -/
def declaringLetters : NarrowText := "aAfFgiIlnrtuxp".toList

/-- Give attributes and values to variables, which belong to the function that
runs unless something else is asked for. -/
def declareVariables : Builtin := fun arguments => do
  let request ← readRequest declaringLetters {} arguments
  if request.wants 'f' || request.wants 'F' then showFunctions request
  else if request.wants 'p' || request.words.isEmpty then
    showAll request fun entry =>
      (!request.wants 'x' || entry.exported) && (!request.wants 'r' || entry.readOnly) &&
        (!request.wants 'i' || entry.counts) &&
        (!request.wants 'a' || (entry.elements matches some (.numbered _))) &&
        (!request.wants 'A' || (entry.elements matches some (.named _)))
  else
    declareAll (!(← get).scopes.isEmpty && !request.wants 'g') true request

/-- Give attributes and values to variables of the function that runs. -/
def keepLocal : Builtin := fun arguments => do
  if (← get).scopes.isEmpty then Run.fault "can only be used in a function".toList
  let request ← readRequest declaringLetters {} arguments
  declareAll true true { request with words := request.words.filter (· ≠ ['-']) }

/-- Hand variables to the programs that are started, or hand them on no
longer. -/
def exportVariables : Builtin := fun arguments => do
  let request ← readRequest "fnp".toList {} arguments
  if request.words.isEmpty then showAll request Variable.exported
  else if request.wants 'f' then Run.finish 0
  else if request.wants 'n' then declareAll false false { request with given := [], taken := ['x'] }
  else declareAll false false { request with given := ['x'] }

/-- Protect variables. -/
def protectVariables : Builtin := fun arguments => do
  let request ← readRequest "aAfp".toList {} arguments
  if request.words.isEmpty then showAll request Variable.readOnly
  else declareAll false false { request with given := 'r' :: request.given }

/-- Forget variables, their elements, or functions. -/
def forget : Builtin := fun arguments => do
  let (options, words) ← readOptions "fnv" arguments
  let mut status := 0
  for word in words do
    let s ← get
    let (name, index) := Run.splitIndex word
    let isVariable := (s.lookup? name).isSome
    if hasOption options 'f' || (!hasOption options 'v' && !isVariable) then
      modify fun s =>
        { s with functions := s.functions.filter fun entry => entry.1 ≠ word }
    else if !isName name then
      Run.complain ('\x60' :: word ++ "': not a valid identifier".toList)
      status := 1
    else if (s.lookup? name).any Variable.readOnly then
      Run.complain (name ++ ": cannot unset: readonly variable".toList)
      status := 1
    else
      match index with
      | none => modify fun s => s.dropVariable name
      | some index =>
          if index = ['@'] || index = ['*'] then modify fun s => s.dropVariable name
          else
            let key ← Run.elementKey name index
            let elements ← Run.elementsIn name
            Run.putElements name (elements.erase key)
  Run.finish status

/-! ## Calculations and arguments -/

/-- Carry out calculations. -/
def letCalculate : Builtin := fun words => do
  if words.isEmpty then Run.fault "expression expected".toList
  let mut last : Int := 0
  for word in words do
    match ← Run.settledValue (Run.calculate word) with
    | .ok value => last := value
    | .error .passing => last := 0
    | .error other => throw other
  Run.finish (if last = 0 then 1 else 0)

/-- Forget the first arguments, if there are so many. -/
def shiftArguments : Builtin := fun words => do
  let count ←
    match words with
    | [] => pure 1
    | word :: _ => Run.naturalArgument word
  let s ← get
  if s.arguments.length < count then Run.finish 1
  else
    modify fun s => { s with arguments := s.arguments.drop count }
    Run.finish 0

/-! ## Settings -/

/-- The settings that are known by names, and whether they are on from the
beginning. -/
def settings : List (String × Bool) :=
  [("autocd", false), ("assoc_expand_once", false), ("cdable_vars", false), ("cdspell", false),
    ("checkhash", false), ("checkjobs", false), ("checkwinsize", true), ("cmdhist", true),
    ("compat31", false), ("compat32", false), ("compat40", false), ("compat41", false),
    ("compat42", false), ("compat43", false), ("compat44", false), ("complete_fullquote", true),
    ("direxpand", false), ("dirspell", false), ("dotglob", false), ("execfail", false),
    ("expand_aliases", false), ("extdebug", false), ("extglob", false), ("extquote", true),
    ("failglob", false), ("force_fignore", true), ("globasciiranges", true),
    ("globskipdots", true), ("globstar", false), ("gnu_errfmt", false), ("histappend", false),
    ("histreedit", false), ("histverify", false), ("hostcomplete", true), ("huponexit", false),
    ("inherit_errexit", false), ("interactive_comments", true), ("lastpipe", false),
    ("lithist", false), ("localvar_inherit", false), ("localvar_unset", false),
    ("login_shell", false), ("mailwarn", false), ("no_empty_cmd_completion", false),
    ("nocaseglob", false), ("nocasematch", false), ("noexpand_translation", false),
    ("nullglob", false), ("patsub_replacement", true), ("progcomp", true),
    ("progcomp_alias", false), ("promptvars", true), ("restricted_shell", false),
    ("shift_verbose", false), ("sourcepath", true), ("varredir_close", false),
    ("xpg_echo", false)]

/-- The settings that are on from the beginning. -/
def initialSettings : List NarrowText :=
  (settings.filter Prod.snd).map fun entry => entry.1.toList

/-- A setting and whether it is on. -/
def shownSetting (s : State) (asCommand : Bool) (name : NarrowText) : NarrowText :=
  let on := s.settings.contains name
  if asCommand then
    (if on then "shopt -s " else "shopt -u ").toList ++ name ++ ['\n']
  else
    name ++ List.replicate (15 - name.length) ' ' ++
      (if on then "\ton\n" else "\toff\n").toList

/-- Show or change the settings of the shell. -/
def setSettings : Builtin := fun arguments => do
  let (options, words) ← readOptions "psuqo" arguments
  let known := settings.map fun entry => entry.1.toList
  let turnsOn := hasOption options 's'
  let turnsOff := hasOption options 'u'
  let mut status := 0
  if hasOption options 'o' then
    for name in words do
      if turnsOn || turnsOff then Settings.switchNamed turnsOn name
  else if words.isEmpty then
    let s ← get
    let wanted := known.filter fun name =>
      let on := s.settings.contains name
      (!turnsOn || on) && (!turnsOff || !on)
    Run.print (wanted.flatMap (shownSetting s (hasOption options 'p')))
  else
    for name in words do
      if !known.contains name then
        Run.complain (name ++ ": invalid shell option name".toList)
        status := 1
      else if turnsOn then
        modify fun s => { s with settings := name :: s.settings.filter (· ≠ name) }
      else if turnsOff then
        modify fun s => { s with settings := s.settings.filter (· ≠ name) }
      else
        let s ← get
        if !s.settings.contains name then status := 1
        if !hasOption options 'q' then Run.print (shownSetting s (hasOption options 'p') name)
  Run.finish status

end Builtin
end Shell
end SyntaxCensus
