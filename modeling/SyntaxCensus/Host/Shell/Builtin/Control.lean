import SyntaxCensus.Host.Shell.Builtin.Basic
import SyntaxCensus.Text.Lines

/-!
# Control and surroundings

The commands that end loops, functions and the shell, that deal with signals,
and that change the working directory.

Main definitions:

- `Builtin.exit`, `Builtin.«return»`, `Builtin.«break»`: ends.
- `Builtin.trap`, `Builtin.kill`: signals.
- `Builtin.cd`, `Builtin.pwd`: the working directory.
-/

namespace SyntaxCensus
namespace Shell

/-! ## Signals -/

/-- The names of signals without their common beginning; the first one stands
for the end of the shell. -/
def signalWords : List NarrowText :=
  "EXIT".toList :: Ending.signalNames.map fun name => name.toList.drop 3

/-- How many signals there are. -/
def signalCount : Nat := 65

/-- The signal of a number or a name. -/
def signalOf? (text : NarrowText) : Option Nat :=
  match Numeral.natural? text with
  | some number => if number < signalCount then some number else none
  | none => signalWords.findIdx? fun word => word = text.map Char.toUpper

/-- The number under which the action is known that is taken at failures. -/
def failureTrap : Nat := 65

/-- What an action can be set for besides signals in the extended language; only
the first one is ever taken. -/
def furtherEvents : List (NarrowText × Nat) :=
  [("ERR".toList, failureTrap), ("DEBUG".toList, 66), ("RETURN".toList, 67)]

/-- The signal of a name in the extended language, or the number of what else an
action can be set for. -/
def eventOf? (text : NarrowText) : Option Nat :=
  let upper := text.map Char.toUpper
  match furtherEvents.find? fun event => event.1 = upper with
  | some (_, number) => some number
  | none => signalOf? (if "SIG".toList.isPrefixOf upper then upper.drop 3 else upper)

/-- The name of a signal. -/
def signalWord (signal : Nat) : NarrowText :=
  (signalWords[signal]?).getD ("RTMIN+".toList ++ Numeral.ofNat (signal - 34))

/-- The name of what an action is set for, as the extended language shows it. -/
def eventWord (number : Nat) : NarrowText :=
  match furtherEvents.find? fun event => event.2 = number with
  | some (name, _) => name
  | none => if number = 0 then "EXIT".toList else "SIG".toList ++ signalWord number

namespace Builtin

/-! ## Ends -/

/-- The status that an argument spells.  In the extended language it may be
negative, and a text that is no number stands for a failure. -/
def statusArgument (word : NarrowText) : Run Nat := do
  if (← get).extended then
    match Numeral.integer? Numeral.decimal? word with
    | some value => return (value % 256).toNat
    | none => do
        Run.complain (word ++ ": numeric argument required".toList)
        return 2
  else Run.naturalArgument word

/-- End the shell. -/
def exit : Builtin := fun words => do
  match words with
  | [] => throw .exiting
  | word :: _ => Run.exit (← statusArgument word)

/-- End a function or a script. -/
def «return» : Builtin := fun words => do
  let s ← get
  if s.extended && s.scopes.isEmpty && s.sourceDepth = 0 then
    Run.complain "can only \x60return' from a function or sourced script".toList
    Run.finish 2
  else
    match words with
    | [] => throw .returning
    | word :: _ => do
        Run.finish (← statusArgument word)
        throw .returning

/-- The number of loops that an argument names, at most those that are run. -/
def loops (words : List NarrowText) : Run Nat := do
  let s ← get
  let depth := s.loopDepth
  if s.extended && depth = 0 then
    Run.complain "only meaningful in a \x60for', \x60while', or \x60until' loop".toList
  match words with
  | [] => return min 1 depth
  | word :: _ => do
      let count ← Run.naturalArgument word
      if count = 0 then Run.fault ("Illegal number: ".toList ++ word)
      return min count depth

/-- End loops. -/
def «break» : Builtin := fun words => do
  let count ← loops words
  Run.finish 0
  if 0 < count then throw (.breaking count)

/-- Go on with the next round of a loop. -/
def «continue» : Builtin := fun words => do
  let count ← loops words
  Run.finish 0
  if 0 < count then throw (.continuing count)

/-- Do nothing, with success. -/
def nothing : Builtin := fun _ => Run.finish 0

/-- Do nothing, without success. -/
def failure : Builtin := fun _ => Run.finish 1

/-! ## Traps -/

/-- What is done at signals, each as a command that sets it. -/
def shownTraps (s : State) : NarrowText :=
  (s.traps.mergeSort fun a b => decide (a.1 ≤ b.1)).flatMap fun (signal, action) =>
    "trap -- ".toList ++ Run.inQuotes action ++
      ' ' :: (if s.extended then eventWord signal else signalWord signal) ++ ['\n']

/-- Set what is done at signals; no action stands for what is done without
one. -/
def setTraps (action : Option NarrowText) : List NarrowText → Run Unit
  | [] => Run.finish 0
  | word :: rest => do
      let extended := (← get).extended
      match (if extended then eventOf? word else signalOf? word) with
      | none => do
          if extended then Run.complain (word ++ ": invalid signal specification".toList)
          else Run.printDiagnostic ("trap: ".toList ++ word ++ ": bad trap".toList)
          Run.finish 1
      | some signal => do
          modify fun s =>
            let others := s.traps.filter fun entry => entry.1 ≠ signal
            { s with
              traps :=
                match action with
                | some action => (signal, action) :: others
                | none => others }
          setTraps action rest

/-- Show or set what is done at signals. -/
def trap : Builtin := fun arguments => do
  let s ← get
  let (options, words) ← readOptions (if s.extended then "lp" else "") arguments
  match (if options.isEmpty then words else []) with
  | [] => Run.show (shownTraps s)
  | [word] => setTraps none [word]
  | action :: rest =>
      if (Numeral.natural? action).any fun number => decide (number < signalCount) then
        setTraps none words
      else setTraps (if action = ['-'] then none else some action) rest

/-! ## Sending signals -/

/-- How signals are sent, in a complaint. -/
def killUsage : NarrowText :=
  "Usage: kill [-s sigspec | -signum | -sigspec] [pid | job]... or\nkill -l [exitstatus]".toList

/-- What is asked of `kill`: a list of signals, or a signal to send. -/
structure KillRequest where
  lists : Bool
  signal : Option Nat
  words : List NarrowText

/-- What the words of the command ask for. -/
def killRequest (words : List NarrowText) : Run KillRequest := do
  let extended := (← get).extended
  let signalOf? := if extended then eventOf? else signalOf?
  match words with
  | ('-' :: name) :: rest =>
      match signalOf? name with
      | some signal => return ⟨false, some signal, rest⟩
      | none => do
          let (options, rest) ← readOptions "ls:" words
          let lists := options.any fun option => option.1 = 'l'
          match options.reverse.find? fun option => option.1 = 's' with
          | none => return ⟨lists, none, rest⟩
          | some (_, name) =>
              match signalOf? name with
              | some signal => return ⟨lists, some signal, rest⟩
              | none => Run.fault ("invalid signal number or name: ".toList ++ name)
  | words => return ⟨false, none, words⟩

/-- The processes that are known to run. -/
def State.isRunning (s : State) (number : Nat) : Bool :=
  number = s.number || number = s.parent || number = s.shellNumber || number = 1 ||
    s.jobs.any fun job => job.number = number

/-- Send a signal to a process.  A job that has not begun yet never does. -/
def sendSignal (signal number : Nat) (s : State) : State :=
  if s.jobs.any fun job => job.number = number then
    if signal = 0 then s
    else
      { s with
        jobs := s.jobs.filter fun job => job.number ≠ number
        finished := (number, .killed signal false) :: s.finished }
  else if signal = 0 then s
  else s.withProcess (s.toProcess.signal number signal)

/-- Send a signal to processes, and tell whether all of them were there. -/
def sendSignals (signal : Nat) : List NarrowText → Run Bool
  | [] => return true
  | word :: rest => do
      let number ←
        match word with
        | '-' :: digits => do
            let _ ← Run.naturalArgument digits
            pure 0
        | digits => Run.naturalArgument digits
      let s ← get
      let isThere := State.isRunning s number
      if isThere then modify (sendSignal signal number)
      else if s.extended then
        Run.complain ('(' :: word ++ ") - No such process".toList)
      else Run.complain "No such process\n".toList
      let others ← sendSignals signal rest
      return isThere && others

/-- Send signals, or show their names. -/
def kill : Builtin := fun words => do
  if words.isEmpty then Run.fault killUsage
  let request ← killRequest words
  if request.lists then
    match request.words with
    | [] =>
        Run.show ("0\n".toList ++
          (signalWords.tail.flatMap fun word => word ++ ['\n']))
    | word :: _ => do
        let number ← Run.naturalArgument word
        let signal := if 128 < number then number - 128 else number
        if 0 < signal ∧ signal < signalCount then Run.show (signalWord signal ++ ['\n'])
        else Run.fault ("invalid signal number or exit status: ".toList ++ word)
  else do
    if request.words.isEmpty then Run.fault killUsage
    let allThere ← sendSignals (request.signal.getD 15) request.words
    Run.finish (if allThere then 0 else 1)

/-! ## The working directory -/

/-- A path without dots and names that lead back. -/
def simplify (path : NarrowText) : NarrowText :=
  let names := (Text.stretches '/' path).foldl
    (fun (kept : List NarrowText) name =>
      if name.isEmpty || name = ['.'] then kept
      else if name = ['.', '.'] then kept.tail
      else name :: kept)
    []
  '/' :: ['/'].intercalate names.reverse

/-- The working directory as a path. -/
def workingPath (s : State) : NarrowText :=
  '/' :: ['/'].intercalate (s.files.working.map NarrowText.ofString)

/-- The path by which the working directory is known. -/
def shownDirectory (s : State) : NarrowText :=
  match s.value? "PWD".toList with
  | some path =>
      match s.files.find (NarrowText.toString path) with
      | .ok (location, _) =>
          if location = s.files.working ∧ path.head? = some '/' then path else workingPath s
      | .error _ => workingPath s
  | none => workingPath s

/-- Go to a directory, if it is one. -/
def enter? (physical : Bool) (path : NarrowText) : Run Bool := do
  let s ← get
  let shown := shownDirectory s
  let full := if path.head? = some '/' then path else shown ++ '/' :: path
  let logical := simplify full
  let wanted := if physical then path else logical
  match s.files.find (NarrowText.toString wanted) with
  | .ok (location, .directory _) => do
      let after : State := { s with files := { s.files with working := location } }
      set after
      let entered := if physical then workingPath after else logical
      Run.assign "OLDPWD".toList shown
      Run.assign "PWD".toList entered
      return true
  | _ => return false

/-- Change the working directory. -/
def cd : Builtin := fun arguments => do
  let (options, words) ← readOptions "LP" arguments
  let s ← get
  let physical := decide ((options.getLast?).map Prod.fst = some 'P')
  if s.extended && 1 < words.length then Run.fault "too many arguments".toList
  let target := words.headD (s.valueOf "HOME")
  let (target, shows) :=
    if words.head? = some ['-'] then (s.valueOf "OLDPWD", true) else (target, false)
  let target := if target.isEmpty then ['.'] else target
  if ← enter? physical target then
    if shows then Run.show (shownDirectory (← get) ++ ['\n']) else Run.finish 0
  else
    let reason :=
      match s.files.find (NarrowText.toString target) with
      | .error fault => fault.description
      | .ok _ => SystemFault.notDirectory.description
    Run.faultIn ("can't cd to ".toList ++ target) (target ++ ": ".toList ++ reason.toList)

/-- Show the working directory. -/
def pwd : Builtin := fun arguments => do
  let (options, _) ← readOptions "LP" arguments
  let s ← get
  let physical := decide ((options.getLast?).map Prod.fst = some 'P')
  Run.show ((if physical then workingPath s else shownDirectory s) ++ ['\n'])

/-- Show the rights that new files do not get, or accept others. -/
def umask : Builtin := fun arguments => do
  let (_, words) ← readOptions "S" arguments
  if words.isEmpty then Run.show "0022\n".toList else Run.finish 0

/-- Show a limit, of which there is none, or accept one. -/
def ulimit : Builtin := fun arguments => do
  if arguments.all fun word => word.head? = some '-' then Run.show "unlimited\n".toList
  else Run.finish 0

/-- Show the time that was used, which is none. -/
def times : Builtin := fun _ =>
  Run.show "0m0.000000s 0m0.000000s\n0m0.000000s 0m0.000000s\n".toList

end Builtin
end Shell
end SyntaxCensus
