import SyntaxCensus.Host.Process.Running
import SyntaxCensus.Host.Shell.Syntax
import SyntaxCensus.Host.Text.Numeral

/-!
# The state of a shell

A shell is a process that keeps variables, functions and settings of its
own.  A command can end more than itself: a loop, a function, or the shell.

Main definitions:

- `Shell.Frame`: what the copy of a shell begins with.
- `Shell.State`: everything that a command may change.
- `Shell.Run`: a step of running commands.
- `Run.fault`: a complaint that ends the shell.
-/

namespace SyntaxCensus
namespace Shell

/-- The elements of a variable that holds several: in the order of their
numbers, or with names in the order in which they are found. -/
inductive Elements where
  | numbered (entries : List (Nat × NarrowText))
  | named (entries : List (NarrowText × NarrowText))
  deriving DecidableEq, Repr

/-- A variable, which may have no value yet.  The value of one with elements is
that of its first number.  `counts` says that what is assigned is
calculated. -/
structure Variable where
  value : Option NarrowText := none
  elements : Option Elements := none
  exported : Bool := false
  readOnly : Bool := false
  counts : Bool := false
  deriving DecidableEq, Repr, Inhabited

/-- What the copy of a shell begins with.  `name` is what the script calls
itself, `commandName` the command of the shell that runs, `line` the line of
the command that runs, and `lastLine` the line up to which the script is read.
`calls`
are the names of the functions that run, and `tracked` those of the programs
whose places are known.  Modes are known by letters, settings by names, and traps by the numbers of
their signals; zero stands for the end of the shell.  `extended` says that the
shell knows the extended language. -/
structure Frame where
  extended : Bool := false
  name : NarrowText := []
  commandName : Option NarrowText := none
  line : Nat := 0
  lastLine : Nat := 0
  arguments : List NarrowText := []
  bindings : List (NarrowText × Variable) := []
  functions : List (NarrowText × Command) := []
  aliases : List (NarrowText × NarrowText) := []
  documents : Documents := []
  nextDocument : Nat := 0
  modes : List Char := []
  settings : List NarrowText := []
  traps : List (Nat × NarrowText) := []
  status : Nat := 0
  substitutionStatus : Nat := 0
  lastJob : Option Nat := none
  loopDepth : Nat := 0
  sourceDepth : Nat := 0
  calls : List NarrowText := []
  tracked : List NarrowText := []
  scopes : List (List (NarrowText × Option Variable)) := []
  shellNumber : Nat := 1
  optionOffset : Nat := 0

/-- A command that runs beside the shell.  It is begun when the shell waits or
has nothing more to do. -/
structure Job where
  number : Nat
  command : Command
  frame : Frame
  descriptors : List (Nat × Nat)
  environment : List (NarrowText × NarrowText)
  working : List String

/-- Everything that a command may change. -/
structure State extends Process, Frame where
  jobs : List Job := []
  finished : List (Nat × Ending) := []

/-- How a command ends more than itself.  The rest of a line can be passed
over. -/
inductive Interruption where
  | passing
  | breaking (levels : Nat)
  | continuing (levels : Nat)
  | returning
  | exiting
  | failing
  | killed (signal : Nat)
  deriving DecidableEq, Repr

/-- A step of running commands. -/
abbrev Run (α : Type) := ExceptT Interruption (StateM State) α

namespace State

/-- A mode is on. -/
def isOn (s : State) (mode : Char) : Bool :=
  s.modes.contains mode

/-- A setting is on. -/
def hasSetting (s : State) (name : String) : Bool :=
  s.settings.contains name.toList

/-- A variable. -/
def lookup? (s : State) (name : NarrowText) : Option Variable :=
  (s.bindings.find? fun binding => binding.1 = name).map Prod.snd

/-- The value of a variable, if it has one. -/
def value? (s : State) (name : NarrowText) : Option NarrowText :=
  (s.lookup? name).bind Variable.value

/-- The value of a variable; that of one without a value is empty. -/
def valueOf (s : State) (name : String) : NarrowText :=
  (s.value? name.toList).getD []

/-- The elements of a variable, in order; one without elements has its value as
the only one. -/
def elementsOf (s : State) (name : NarrowText) : List NarrowText :=
  match s.lookup? name with
  | none => []
  | some entry =>
      match entry.elements with
      | some (.numbered entries) => entries.map Prod.snd
      | some (.named entries) => entries.map Prod.snd
      | none => entry.value.toList

/-- The keys of the elements of a variable, in order. -/
def keysOf (s : State) (name : NarrowText) : List NarrowText :=
  match s.lookup? name with
  | none => []
  | some entry =>
      match entry.elements with
      | some (.numbered entries) => entries.map fun element => Numeral.ofNat element.1
      | some (.named entries) => entries.map Prod.fst
      | none => if entry.value.isSome then [['0']] else []

/-- The elements of a variable are known by names. -/
def hasNames (s : State) (name : NarrowText) : Bool :=
  match (s.lookup? name).bind Variable.elements with
  | some (.named _) => true
  | _ => false

/-- The element of a variable under a key. -/
def element? (s : State) (name key : NarrowText) : Option NarrowText :=
  match s.lookup? name with
  | none => none
  | some entry =>
      match entry.elements with
      | some (.numbered entries) =>
          (entries.find? fun element => Numeral.ofNat element.1 = key).map Prod.snd
      | some (.named entries) => (entries.find? fun element => element.1 = key).map Prod.snd
      | none => if key = ['0'] then entry.value else none

/-- Put another variable under a name. -/
def putVariable (s : State) (name : NarrowText) (entry : Variable) : State :=
  { s with
    bindings :=
      (name, entry) :: s.bindings.filter fun binding => binding.1 ≠ name }

/-- Forget a variable. -/
def dropVariable (s : State) (name : NarrowText) : State :=
  { s with bindings := s.bindings.filter fun binding => binding.1 ≠ name }

/-- The variables that programs are started with. -/
def exports (s : State) : List (NarrowText × NarrowText) :=
  s.bindings.filterMap fun (name, entry) =>
    if entry.exported then entry.value.map fun value => (name, value) else none

/-- The function of a name. -/
def function? (s : State) (name : NarrowText) : Option Command :=
  (s.functions.find? fun entry => entry.1 = name).map Prod.snd

/-- Know the place of a program from now on. -/
def track (s : State) (name : NarrowText) : State :=
  if name.contains '/' || s.tracked.contains name then s
  else { s with tracked := name :: s.tracked }

/-- The state with another process. -/
def withProcess (s : State) (process : Process) : State :=
  { s with toProcess := process }

end State

namespace Run

/-- Change the process. -/
def onProcess (change : Process → Process) : Run Unit :=
  modify fun s => s.withProcess (change s.toProcess)

/-- End a command with a status. -/
def finish (status : Nat) : Run Unit :=
  modify fun s => { s with status }

/-- Write text on the output, and tell why that is not possible. -/
def print? (text : NarrowText) : Run (Option SystemFault) :=
  modifyGet fun s =>
    let (fault, process) := s.toProcess.write? 1 text
    (fault, s.withProcess process)

/-- Write text on the output as far as that is possible. -/
def print (text : NarrowText) : Run Unit := do
  let _ ← print? text

/-- Write a line of diagnostics. -/
def printDiagnostic (message : NarrowText) : Run Unit :=
  onProcess fun process => process.complain message

/-- What begins the complaints of a shell: its name, the line that is to
blame, and the command of the shell that runs. -/
def label (s : State) : NarrowText :=
  s.name ++ (if s.extended then s!": line {s.line}: " else s!": {s.line}: ").toList ++
    match s.commandName with
    | some name => name ++ ": ".toList
    | none => []

/-- Complain about the command that runs. -/
def complain (message : NarrowText) : Run Unit := do
  printDiagnostic (label (← get) ++ message)

/-- Complain about the command that runs, and end what it is part of. -/
def fault {α : Type} (message : NarrowText) : Run α := do
  complain message
  finish (if (← get).extended then 1 else 2)
  throw .failing

/-- Complain about something in a command, and pass over the rest of the line;
a shell without the extended language ends. -/
def slip {α : Type} (message : NarrowText) : Run α := do
  if (← get).extended then
    complain message
    finish 1
    throw .passing
  else fault message

/-- Complain in the words of the language that the shell knows. -/
def faultIn {α : Type} (plain extended : NarrowText) : Run α := do
  fault (if (← get).extended then extended else plain)

/-- End the shell with a status. -/
def exit {α : Type} (status : Nat) : Run α := do
  finish status
  throw .exiting

/-! ## Variables -/

/-- Complain about a variable that must not change. -/
def refuseChange (name : NarrowText) : Run Unit := do
  if (← get).extended then slip (name ++ ": readonly variable".toList)
  else fault (name ++ ": is read only".toList)

/-- The first element of a row with another value. -/
def withFirst (value : NarrowText) : Elements → Elements
  | .numbered entries => .numbered ((0, value) :: entries.filter fun element => element.1 ≠ 0)
  | .named entries =>
      .named ((entries.filter fun element => element.1 ≠ ['0']) ++ [(['0'], value)])

/-- Give a value to a variable. -/
def assign (name value : NarrowText) : Run Unit := do
  let s ← get
  let old := (s.lookup? name).getD {}
  if old.readOnly then refuseChange name
  let exported := old.exported || s.isOn 'a'
  let optionOffset := if name = "OPTIND".toList then 0 else s.optionOffset
  let elements := old.elements.map (withFirst value)
  let tracked := if name = "PATH".toList then [] else s.tracked
  set { s.putVariable name { old with value := some value, elements, exported } with
    optionOffset
    tracked }

/-- Take the value of a variable away. -/
def unassign (name : NarrowText) : Run Unit := do
  let s ← get
  if (s.lookup? name).any Variable.readOnly then
    if s.extended then fault (name ++ ": cannot unset: readonly variable".toList)
    else fault (name ++ ": is read only".toList)
  set (s.dropVariable name)

/-- Put elements into a variable. -/
def putElements (name : NarrowText) (elements : Elements) : Run Unit := do
  let s ← get
  let old := (s.lookup? name).getD {}
  if old.readOnly then refuseChange name
  let value :=
    match elements with
    | .numbered entries => (entries.find? fun element => element.1 = 0).map Prod.snd
    | .named entries => (entries.find? fun element => element.1 = ['0']).map Prod.snd
  set (s.putVariable name { old with value, elements := some elements })

/-- The elements of a variable, which becomes a row if it is none. -/
def elementsIn (name : NarrowText) : Run Elements := do
  match (← get).lookup? name with
  | none => return .numbered []
  | some entry =>
      match entry.elements, entry.value with
      | some elements, _ => return elements
      | none, some value => return .numbered [(0, value)]
      | none, none => return .numbered []

/-! ## Running apart -/

/-- The ending of a shell after what has run in it.  Processes of this machine leave
no image of their memory. -/
def endingOf (outcome : Except Interruption Unit) (s : State) : Ending :=
  match outcome with
  | .error (.killed signal) => .killed signal false
  | _ => .exited (s.status % 256)

/-- Run something in a copy of the shell, and tell how the copy ended.  What
it did to files and streams stays. -/
def apart (prepare : State → State) (run : Run Unit) : Run Ending := do
  let s ← get
  let copy := prepare { s with toProcess := s.toProcess.child, jobs := [], finished := [] }
  let (outcome, after) := (run.run copy : Except Interruption Unit × State)
  set (s.withProcess (s.toProcess.rejoin after.toProcess))
  return endingOf outcome after

/-- Go on after something that was interrupted, whatever it was. -/
def settled (run : Run Unit) : Run (Option Interruption) := fun s =>
  let (outcome, s) := (run.run s : Except Interruption Unit × State)
  match outcome with
  | .ok () => (.ok none, s)
  | .error interruption => (.ok (some interruption), s)

/-- What something gives, or how it was interrupted. -/
def settledValue {α : Type} (run : Run α) : Run (Except Interruption α) := fun s =>
  let (outcome, s) := (run.run s : Except Interruption α × State)
  (.ok outcome, s)

/-- Pass an interruption on, if there was one. -/
def resume : Option Interruption → Run Unit
  | none => return
  | some interruption => throw interruption

/-- Do something with other descriptors, which are put back afterwards even if
there was an interruption. -/
def keepingDescriptors (run : Run Unit) : Run Unit := do
  let before := (← get).descriptors
  let interruption ← settled run
  modify fun s => { s with descriptors := before }
  resume interruption

end Run
end Shell
end SyntaxCensus
