import SyntaxCensus.Host.Shell.Commands
import SyntaxCensus.Host.Shell.Redirecting
import SyntaxCensus.Host.Text.Posix

/-!
# Running commands

The commands of a script are run one after the other.  One step of running is
defined for a given way to run the commands inside, so that the depth to which
commands are nested is the only measure of a run.

Main definitions:

- `Command.step`: run a command, given how its parts are run.
- `Command.run`: run a command whose parts are nested to a limited depth.
- `Shell.runText`: run the text of a script line by line.
- `Shell.leaving`: run something, and then what is left to do at the end of a
  shell.
-/

namespace SyntaxCensus
namespace Shell

/-- What is known about the place of a command: whether its status is looked
at, so that a failure does not end the shell, and whether nothing is run after
it, so that a program may take the place of the shell. -/
structure Position where
  tested : Bool := false
  last : Bool := false
  deriving DecidableEq, Repr

namespace Position

/-- Nothing is known about the place of a command. -/
def plain : Position := ⟨false, false⟩

/-- The status of a command is looked at. -/
def checked : Position := ⟨true, false⟩

/-- The place of a command after which others are run. -/
def inner (p : Position) : Position := ⟨p.tested, false⟩

/-- The place of a command after which nothing is run. -/
def final (p : Position) : Position := ⟨p.tested, true⟩

end Position

/-- How commands are run at a place. -/
abbrev Runner := Position → Command → Run Unit

/-- How many rounds a loop may make. -/
def maxRounds : Nat := 500000

/-- How deep calls of functions may be nested. -/
def maxCalls : Nat := 1000

/-- Why a program cannot be started, in the words of a shell. -/
def startReason : SystemFault → String
  | .notFound | .notDirectory => "not found"
  | fault => fault.description

/-- The complaint about a program that cannot be started. -/
def startComplaint (s : State) (name : NarrowText) (fault : SystemFault) : NarrowText :=
  let reason :=
    if s.extended then
      match fault with
      | .notFound => if name.contains '/' then fault.description else "command not found"
      | .permissionDenied =>
          if s.files.isDirectory (NarrowText.toString name) then "Is a directory"
          else fault.description
      | other => other.description
    else startReason fault
  name ++ ": ".toList ++ reason.toList

/-- The status of a command whose program cannot be started. -/
def startStatus : SystemFault → Nat
  | .notFound | .notDirectory | .nameTooLong | .tooManyLinks => 127
  | _ => 126

/-- What is said about a signal that killed a process. -/
def signalReport? (signal : Nat) : Option String :=
  match signal with
  | 1 => some "Hangup"
  | 2 | 13 => none
  | 3 => some "Quit"
  | 4 => some "Illegal instruction"
  | 5 => some "Trace/breakpoint trap"
  | 6 => some "Aborted"
  | 7 => some "Bus error"
  | 8 => some "Floating point exception"
  | 9 => some "Killed"
  | 10 => some "User defined signal 1"
  | 11 => some "Segmentation fault"
  | 12 => some "User defined signal 2"
  | 14 => some "Alarm clock"
  | 15 => some "Terminated"
  | other => some s!"Signal {other}"

/-- What is said about a process that was killed. -/
def killReport? : Ending → Option String
  | .exited _ => none
  | .killed signal dumped =>
      (signalReport? signal).map fun text => if dumped then text ++ " (core dumped)" else text

/-- Report that a process was killed. -/
def report (ending : Ending) : Run Unit :=
  match killReport? ending with
  | some text => Run.printDiagnostic text.toList
  | none => return

/-- The status that an ending leaves behind. -/
def finishWith (ending : Ending) : Run Unit := do
  report ending
  Run.finish ending.status

section

variable (start : Starter) (run : Runner)

/-! ## Texts of scripts -/

/-- Do something, after which a script goes on even if the rest of the line is
passed over. -/
def passOver (body : Run Unit) : Run Unit := do
  match ← Run.settled body with
  | some .passing => return
  | other => Run.resume other

/-- Run what is left of a script line by line; at most `limit` lines.  A line
may change how the next one is read. -/
def runLines (p : Position) (source : Source) : Nat → Run Unit
  | 0 => return
  | limit + 1 => do
      let s ← get
      let text := if p.last then source.rest else []
      match readLine.run { source with
          aliases := if s.extended && !s.hasSetting "expand_aliases" then [] else s.aliases
          nextDocument := s.nextDocument
          documents := [] } with
      | .error fault => do
          modify fun s => { s with line := fault.line }
          if s.extended then
            Run.complain fault.problem.toList
            if "syntax error near".isPrefixOf fault.problem then
              let lines := Text.stretches '\n' source.rest
              Run.complain ('\x60' :: lines.getD (fault.line - source.line) [] ++ ['\''])
            Run.exit 2
          else Run.fault ("Syntax error: ".toList ++ fault.problem.toList)
      | .ok (found, source) => do
          modify fun s =>
            { s with
              documents := source.documents ++ s.documents
              nextDocument := source.nextDocument }
          match found with
          | none => return
          | some command => do
              modify fun s => { s with lastLine := source.line }
              let isLast := p.last && source.rest.isEmpty && text.getLast? ≠ some '\n'
              if !(← get).isOn 'n' then
                passOver (run (if isLast then p else p.inner) command)
              runLines p source limit

/-- Run the text of a script whose first line has a number. -/
def runTextAt (line : Nat) (p : Position) (text : NarrowText) : Run Unit := do
  runLines run p { rest := text, line, extended := (← get).extended } (text.length + 2)

/-- Run the text of a script. -/
def runText (p : Position) (text : NarrowText) : Run Unit :=
  runTextAt run 1 p text

/-- Run a text as a command of the shell does, which leaves success behind if
there is nothing to run. -/
def evaluateText (p : Position) (text : NarrowText) : Run Unit := do
  if text.all Numeral.isSpace then Run.finish 0 else runText run p text

/-! ## Signals -/

/-- The signals that change nothing if no action is set for them. -/
def isHarmless (signal : Nat) : Bool :=
  [0, 17, 18, 20, 21, 22, 23, 28].contains signal

/-- Run the action of a trap, which leaves the status as it was.  What it runs
may be told to be on a line. -/
def runTrap (line : Nat) (action : NarrowText) : Run Unit := do
  let status := (← get).status
  let outer := (← get).line
  runTextAt run line .plain action
  modify fun s => { s with status, line := outer }

/-- Deal with the signals that were sent to the shell; at most `limit` of
them. -/
def heed : Nat → Run Unit
  | 0 => return
  | limit + 1 => do
      let s ← get
      match s.toProcess.takeSignal? with
      | none => return
      | some (signal, process) => do
          set (s.withProcess process)
          let action :=
            if signal = 9 then none
            else (s.traps.find? fun entry => entry.1 = signal).map Prod.snd
          match action with
          | some [] => pure ()
          | some action => runTrap run 1 action
          | none => if !isHarmless signal then throw (.killed signal)
          heed limit

/-- Deal with all signals that were sent to the shell. -/
def heedAll : Run Unit := do
  if !(← get).signals.isEmpty then heed run 100

/-! ## Copies of the shell -/

/-- Run the action that is set for the end of the shell, if the shell has not
been killed. -/
def runExitTrap : Run Unit := do
  let s ← get
  match s.traps.find? fun entry => entry.1 = 0 with
  | none => return
  | some (_, action) => do
      set { s with traps := s.traps.filter fun entry => entry.1 ≠ 0 }
      let interruption ← Run.settled (runText run .plain action)
      match interruption with
      | some .exiting => return
      | some (.killed signal) => throw (.killed signal)
      | _ => Run.finish s.status

/-- The frame of a copy: actions that are set for signals are forgotten, but
signals that are ignored stay so. -/
def withoutTraps (s : State) : State :=
  { s with traps := s.traps.filter fun entry => entry.2.isEmpty }

/-- Begin a job, which has a number of its own. -/
def beginJob (job : Job) : Run Unit := do
  let s ← get
  let process : Process :=
    { s.toProcess with
      number := job.number
      parent := s.number
      descriptors := job.descriptors
      environment := job.environment
      files := { s.files with working := job.working } }
  let copy : State := withoutTraps { toProcess := process, toFrame := job.frame }
  let (outcome, after) :=
    ((do run (Position.final .plain) job.command; runExitTrap run : Run Unit).run copy :
      Except Interruption Unit × State)
  set { s.withProcess (s.toProcess.rejoin after.toProcess) with
    finished := (job.number, Run.endingOf outcome after) :: s.finished }

/-- Begin the jobs that are waiting, at most `limit` of them. -/
def beginJobs : Nat → Run Unit
  | 0 => return
  | limit + 1 => do
      match (← get).jobs with
      | [] => return
      | job :: rest => do
          modify fun s => { s with jobs := rest }
          beginJob run job
          beginJobs limit

/-- How many jobs are begun in a row. -/
def maxJobs : Nat := 1000

/-- Run something, and then what is left to do at the end of a shell. -/
def leaving (body : Run Unit) : Run Unit := do
  let interruption ← Run.settled (do body; heedAll run)
  match interruption with
  | some (.killed signal) => do
      beginJobs run maxJobs
      throw (.killed signal)
  | _ => do
      let ending ← Run.settled (runExitTrap run)
      beginJobs run maxJobs
      Run.resume ending

/-- Run something in a copy of the shell. -/
def inCopy (prepare : State → State) (body : Run Unit) : Run Ending :=
  Run.apart (fun s => prepare (withoutTraps s)) (leaving run body)

/-- The output of a command. -/
def outputOf (body : Command) : Run NarrowText := do
  match body with
  | .nothing => return []
  | _ => do
      let number := (← get).streams.size
      let ending ← inCopy run
        (fun s => s.withProcess (s.toProcess.bindTo 1 (.sink [])))
        (run (Position.final .plain) body)
      let text := (← get).toProcess.writtenTo number
      Run.onProcess fun process => process.change number .nowhere
      report ending
      modify fun s => { s with substitutionStatus := ending.status }
      return text

/-! ## Variables of commands -/

/-- The value that an assignment gives to a variable that is calculated. -/
def valueFor (name value : NarrowText) : Run NarrowText := do
  if ((← get).lookup? name).any Variable.counts then
    return Numeral.ofInt (← Run.calculate value)
  else return value

/-- Carry out an assignment, and tell its value as it is shown. -/
def assignOne (name : NarrowText) : Assigned → Run NarrowText
  | .text appends none word => do
      let value ← expandText (outputOf run) .behindColons word
      let value ←
        if appends then
          let old := ((← get).value? name).getD []
          if ((← get).lookup? name).any Variable.counts then
            pure (old ++ '+' :: value)
          else pure (old ++ value)
        else pure value
      Run.assign name (← valueFor name value)
      return value
  | .text appends (some index) word => do
      let key ← Run.elementKey name (← expandText (outputOf run) .never index)
      let value ← expandText (outputOf run) .behindColons word
      let s ← get
      let old := if appends then (s.element? name key).getD [] else []
      Run.putElement name key (← valueFor name (old ++ value))
      return value
  | .row appends values => do
      let named := (← get).hasNames name
      let start : Elements ←
        if appends then Run.elementsIn name
        else pure (if named then .named [] else .numbered [])
      let elements ← addValues named start values
      Run.putElements name elements
      return []
where
  /-- Elements with further values, each behind the one before or under its
  key. -/
  addValues (named : Bool) (elements : Elements) :
      List (Option (List Segment) × List Segment) → Run Elements
    | [] => return elements
    | (some index, word) :: rest => do
        let index ← expandText (outputOf run) .never index
        let value ← expandText (outputOf run) .behindColons word
        let key ←
          if named then pure index
          else pure (Numeral.ofNat (← Run.calculate index).toNat)
        addValues named (elements.put key value) rest
    | (none, word) :: rest => do
        let values ← expandOne (outputOf run) word
        let elements := values.foldl
          (fun elements value => elements.put (Numeral.ofNat elements.nextNumber) value) elements
        addValues named elements rest

/-- Carry out assignments one after the other. -/
def assignAll : List (NarrowText × Assigned) → Run (List (NarrowText × NarrowText))
  | [] => return []
  | (name, assigned) :: rest => do
      let value ← assignOne run name assigned
      return (name, value) :: (← assignAll rest)

/-- Put a variable back to what it was. -/
def restore (name : NarrowText) (entry : Option Variable) (s : State) : State :=
  match entry with
  | some entry => s.putVariable name entry
  | none => s.dropVariable name

/-- Do something with variables that are handed on, and put them back
afterwards. -/
def withAssignments (assignments : List (NarrowText × Assigned)) (body : Run Unit) : Run Unit := do
  let s ← get
  let old := assignments.map fun (name, _) => (name, s.lookup? name)
  let interruption ← Run.settled do
    let _ ← assignAll run assignments
    for (name, _) in assignments do
      modify fun s => s.putVariable name { (s.lookup? name).getD {} with exported := true }
    body
  modify fun s => old.foldl (fun s entry => restore entry.1 entry.2 s) s
  Run.resume interruption

/-! ## Functions, commands of the shell and programs -/

/-- Keep the names of the functions that run in a variable. -/
def nameCalls : Run Unit := do
  let s ← get
  if s.extended then
    if s.calls.isEmpty then set (s.dropVariable "FUNCNAME".toList)
    else Run.putElements "FUNCNAME".toList (.ofValues (s.calls ++ ["main".toList]))

/-- Call a function. -/
def callFunction (p : Position) (name : NarrowText) (body : Command)
    (arguments : List NarrowText) : Run Unit := do
  let s ← get
  if maxCalls < s.scopes.length then
    Run.fault
      (s!"Maximum function recursion depth ({maxCalls}) reached").toList
  set { s with
    arguments
    loopDepth := 0
    scopes := [] :: s.scopes
    calls := name :: s.calls
    optionOffset := 0 }
  nameCalls
  let interruption ← Run.settled (run p.inner body)
  let after ← get
  let kept := after.scopes.headD []
  set (kept.foldl (fun s entry => restore entry.1 entry.2 s)
    { after with
      arguments := s.arguments
      loopDepth := s.loopDepth
      scopes := s.scopes
      calls := s.calls
      optionOffset := s.optionOffset })
  nameCalls
  match interruption with
  | some .returning => return
  | other => Run.resume other

/-- Run a command of the shell.  If it fails, only one that is special ends
the shell. -/
def runBuiltin (special : Bool) (name : NarrowText) (body : Run Unit) : Run Unit := do
  let outer := (← get).commandName
  modify fun s => { s with commandName := some name }
  let interruption ← Run.settled body
  modify fun s => { s with commandName := outer }
  let s ← get
  match interruption with
  | some .failing => if special && !s.extended then throw .failing else return
  | other => Run.resume other

/-- The environment of a program that the shell starts. -/
def State.environmentFor (s : State) : List (NarrowText × NarrowText) :=
  s.exports.reverse

/-- Start a program and wait for it. -/
def callProgram (words : List NarrowText) : Run Unit := do
  if words.head? = some "sleep".toList then beginJobs run maxJobs
  modify fun s => s.track (words.headD [])
  let s ← get
  let child := { s.toProcess.child with environment := s.environmentFor }
  let name := words.headD []
  match child.startFirst start words none (placesOf s.searchPath name) with
  | .ok (ending, after) => do
      set (s.withProcess (s.toProcess.rejoin after))
      finishWith ending
  | .error fault => do
      Run.complain (startComplaint s name fault)
      Run.finish (startStatus fault)

/-- Put a program in the place of the shell. -/
def becomeProgram (words : List NarrowText) : Run Unit := do
  let s ← get
  let process := { s.toProcess with environment := s.environmentFor }
  let name := words.headD []
  match process.startFirst start words none (placesOf s.searchPath name) with
  | .ok (ending, after) => do
      set { s.withProcess (s.toProcess.rejoin after) with traps := [] }
      match ending with
      | .exited status => Run.exit status
      | .killed signal _ => throw (.killed signal)
  | .error fault => do
      Run.complain (startComplaint s name fault)
      Run.exit (startStatus fault)

/-- Run a program, in the place of the shell if nothing is run after it. -/
def runProgram (p : Position) (words : List NarrowText) : Run Unit := do
  let s ← get
  if p.last && s.traps.isEmpty && s.jobs.isEmpty then becomeProgram start words
  else callProgram start run words

/-- Run the text of a script in the shell itself.  Arguments take the place of
those of the shell if there are any. -/
def runSourced (text : NarrowText) (arguments : List NarrowText) : Run Unit := do
  let before := (← get).arguments
  modify fun s =>
    { s with
      sourceDepth := s.sourceDepth + 1
      commandName := if s.extended then none else s.commandName
      arguments := if s.extended && !arguments.isEmpty then arguments else s.arguments }
  let interruption ← Run.settled (evaluateText run .plain text)
  modify fun s =>
    { s with
      sourceDepth := s.sourceDepth - 1
      arguments := if s.extended && !arguments.isEmpty then before else s.arguments }
  match interruption with
  | some .returning => return
  | other => Run.resume other

/-- Run a script in the shell itself. -/
def source (arguments : List NarrowText) : Run Unit := do
  let (_, words) ← readOptions "" arguments
  let extended := (← get).extended
  match words with
  | [] => if extended then Run.misuse "filename argument required".toList else Run.finish 0
  | name :: arguments => do
      let s ← get
      let place? :=
        if name.contains '/' then some name
        else
          (placesOf s.searchPath name ++ if extended then [name] else []).find? fun place =>
            s.files.isFile (NarrowText.toString place)
      if extended then modify fun s => { s with commandName := none }
      match place? with
      | none =>
          Run.faultIn (name ++ ": not found".toList)
            (name ++ ": No such file or directory".toList)
      | some place =>
          match s.toProcess.readFile place with
          | .error fault =>
              if extended then Run.fault (place ++ ": ".toList ++ fault.description.toList)
              else Run.fault (openComplaint s false place fault)
          | .ok text => do
              if !extended then modify fun s => { s with commandName := some place }
              runSourced run text arguments

/-- Wait for jobs. -/
def waitFor : List NarrowText → Run Unit
  | [] => return
  | word :: rest => do
      let number ← Run.naturalArgument word
      match (← get).finished.find? fun entry => entry.1 = number with
      | some (_, ending) => do
          report ending
          Run.finish ending.status
      | none => Run.finish 127
      waitFor rest

/-- Run a command of the shell that runs other commands. -/
def runControl (p : Position) (name : NarrowText) (arguments : List NarrowText) : Run Unit := do
  match String.ofList name with
  | "eval" => evaluateText run p.inner ([' '].intercalate arguments)
  | "." | "source" => source run arguments
  | "exec" => do
      let (_, words) ← readOptions "" arguments
      if words.isEmpty then Run.finish 0 else becomeProgram start words
  | "wait" => do
      beginJobs run maxJobs
      let (_, words) ← readOptions "" arguments
      Run.finish 0
      waitFor words
  | "type" => do
      let s ← get
      Run.finish 0
      if s.extended then
        let (options, words) ← readOptions "afptP" arguments
        let has (letter : Char) : Bool := options.any fun option => option.1 = letter
        if has 't' then classifyAll false false words
        else if has 'p' || has 'P' then classifyAll true (has 'P') words
        else describeAll false words
      else describeAll false arguments
  | "hash" => do
      let words := arguments.filter fun word => word.head? ≠ some '-'
      if arguments.contains ['-', 'r'] then modify fun s => { s with tracked := [] }
      Run.finish 0
      seekAll words
  | "builtin" => do
      match arguments with
      | [] => Run.finish 0
      | name :: rest =>
          match builtin? true name with
          | some builtin => builtin rest
          | none => Run.fault (name ++ ": not a shell builtin".toList)
  | "command" => do
      let (options, words) ← readOptions "pvV" arguments
      Run.finish 0
      describeAll (!options.any fun option => option.1 = 'V')
        (if (← get).extended then words else words.take 1)
  | _ => Run.fault "No current job".toList

/-! ## Simple commands -/

/-- The fields of a word that is an argument of a declaration. -/
def expandDeclared (word : Word) : Run (List NarrowText) := do
  match assignment? word with
  | some (name, value) => do
      return [name ++ '=' :: (← expandText (outputOf run) .behindColons value)]
  | none => expandOne (outputOf run) word

/-- The fields of the words of a command. -/
def expandArguments (words : List Word) : Run (List NarrowText) := do
  match words with
  | [] => return []
  | first :: rest => do
      let front ← expandOne (outputOf run) first
      match front with
      | [name] =>
          if isNamed (declarations (← get).extended) name then
            return name :: (← rest.mapM (expandDeclared run)).flatten
          else return name :: (← expandFields (outputOf run) rest)
      | _ => return front ++ (← expandFields (outputOf run) rest)

/-- Show a command before it runs, if that is asked for. -/
def trace (assignments : List (NarrowText × NarrowText)) (words : List NarrowText) :
    Run Unit := do
  let s ← get
  if s.isOn 'x' then
    let shown := (assignments.map fun (name, value) => name ++ '=' :: value) ++ words
    Run.printDiagnostic ((s.value? "PS4".toList).getD ['+', ' '] ++ [' '].intercalate shown)

/-- The words behind `command`, if it is there to run another command. -/
def commanded? : List NarrowText → Option (List NarrowText)
  | name :: rest =>
      if name = "command".toList then
        match rest with
        | ['-', 'p'] :: word :: more => some (word :: more)
        | ['-', '-'] :: word :: more => some (word :: more)
        | ('-' :: _) :: _ => none
        | word :: more => some (word :: more)
        | [] => none
      else none
  | [] => none

/-- The words behind all `command` words, and whether there were any. -/
def withoutCommand (direct : Bool) (words : List NarrowText) : Nat → Bool × List NarrowText
  | 0 => (direct, words)
  | limit + 1 =>
      match commanded? words with
      | some rest => withoutCommand false rest limit
      | none => (direct, words)

/-- Run a command of the shell with its arguments. -/
def runShellCommand (p : Position) (special : Bool) (name : NarrowText)
    (arguments : List NarrowText) : Run Unit :=
  runBuiltin special name
    (do
      match builtin? (← get).extended name with
      | some builtin => builtin arguments
      | none => runControl start run p name arguments)

/-- Do something while descriptors are redirected. -/
def redirecting (redirections : List Redirection) (special : Bool) (body : Run Unit) :
    Run Unit := do
  let redirect := redirectAll (outputOf run) redirections
  if redirections.isEmpty then body
  else
    Run.keepingDescriptors do
      if ← redirect then body
      else do
        Run.finish (if (← get).extended then 1 else 2)
        if special then throw .failing

/-- The values of assignments as they are shown, without carrying them out. -/
def expandAssignments (assignments : List (NarrowText × Assigned)) :
    Run (List (NarrowText × NarrowText)) :=
  assignments.mapM fun (name, assigned) => do
    match assigned with
    | .text _ _ word => return (name, ← expandText (outputOf run) .behindColons word)
    | .row _ _ => return (name, [])

/-- Run a simple command whose words are expanded. -/
def runWords (p : Position) (assignments : List (NarrowText × Assigned))
    (redirections : List Redirection) (words : List NarrowText) : Run Unit := do
  let (direct, words) := withoutCommand true words words.length
  let name := words.headD []
  let arguments := words.tail
  let tracing := (← get).isOn 'x'
  let traced : Run Unit := do
    if tracing then
      let shown ← expandAssignments run assignments
      trace shown words
  match (← get).resolve direct name with
  | .special =>
      let body : Run Unit := do
        let _ ← assignAll run assignments
        if tracing then trace [] words
        runShellCommand start run p direct name arguments
      let extended := (← get).extended
      if name = "exec".toList ∧ redirections ≠ [] then do
        if ← redirectAll (outputOf run) redirections then body
        else do
          Run.finish (if extended then 1 else 2)
          if direct && !extended then throw .failing
      else redirecting run redirections (direct && !extended) body
  | .function body =>
      redirecting run redirections false do
        traced
        withAssignments run assignments (callFunction run p.inner name body arguments)
  | .builtin =>
      redirecting run redirections false do
        traced
        withAssignments run assignments
          (runShellCommand start run p false name arguments)
  | .program =>
      redirecting run redirections false do
        traced
        withAssignments run assignments (runProgram start run p words)

/-- Do something, after which the descriptors of feeds are closed again. -/
def closingFeeds (body : Run Unit) : Run Unit := do
  let isFeed (binding : Nat × Nat) : Bool := decide (firstFeed ≤ binding.1)
  let before := (← get).descriptors.filter isFeed
  let interruption ← Run.settled body
  modify fun s =>
    { s with descriptors := (s.descriptors.filter fun binding => !isFeed binding) ++ before }
  Run.resume interruption

/-- Run a simple command. -/
def runSimple (p : Position) (line : Nat) (assignments : List (NarrowText × Assigned))
    (words : List Word) (redirections : List Redirection) : Run Unit := do
  modify fun s => { s with line, substitutionStatus := 0 }
  match ← expandArguments run words with
  | [] =>
      redirecting run redirections false do
        let values ← assignAll run assignments
        if !assignments.isEmpty then trace values []
        Run.finish (← get).substitutionStatus
  | fields => runWords start run p assignments redirections fields

/-! ## Compound commands -/

/-- Run commands one after the other, each reading what the one before it has
written, and tell how they ended. -/
def runPipeline (p : Position) (input : Option Nat) : List Command → Run (List Ending)
  | [] => return []
  | command :: rest => do
      let number := (← get).streams.size
      let prepare (s : State) : State :=
        let process := s.toProcess
        let process :=
          match input with
          | some source => process.bind 0 source
          | none => process
        s.withProcess (if rest.isEmpty then process else process.bindTo 1 (.sink []))
      let ending ← inCopy run prepare (run p.final command)
      report ending
      match rest with
      | [] => return [ending]
      | _ :: _ => do
          let text := (← get).toProcess.writtenTo number
          Run.onProcess fun process => process.change number (.source text)
          let others ← runPipeline p (some number) rest
          Run.onProcess fun process => process.change number .nowhere
          return ending :: others

/-- Keep the statuses of the commands of a pipeline in a variable. -/
def keepStatuses (statuses : List Nat) : Run Unit := do
  if (← get).extended then
    Run.putElements "PIPESTATUS".toList (.ofValues (statuses.map Numeral.ofNat))

/-- The status that a pipeline leaves behind. -/
def finishPipeline (endings : List Ending) : Run Unit := do
  let statuses := endings.map Ending.status
  keepStatuses statuses
  let s ← get
  let failed := statuses.filter (· ≠ 0)
  Run.finish (if s.isOn Settings.pipeMode then failed.getLastD 0 else statuses.getLastD 0)

/-- Let a command run beside the shell. -/
def addJob (command : Command) : Run Unit := do
  let s ← get
  let number := s.lastNumber + 1
  let process := s.toProcess.bindTo 0 .nowhere
  let job : Job :=
    { number
      command
      frame := s.toFrame
      descriptors := process.descriptors
      environment := s.environment
      working := s.files.working }
  set { s with
    streams := process.streams
    lastNumber := number
    lastJob := some number
    jobs := s.jobs ++ [job]
    status := 0 }

/-- What an interruption of a round of a loop means for the loop: it goes on,
it ends, or the interruption is passed on. -/
def afterRound : Option Interruption → Run Bool
  | none => return true
  | some (.continuing levels) =>
      if levels ≤ 1 then return true else throw (.continuing (levels - 1))
  | some (.breaking levels) =>
      if levels ≤ 1 then return false else throw (.breaking (levels - 1))
  | some other => throw other

/-- Do something inside a loop. -/
def inLoop (body : Run Unit) : Run Unit := do
  modify fun s => { s with loopDepth := s.loopDepth + 1 }
  let interruption ← Run.settled body
  modify fun s => { s with loopDepth := s.loopDepth - 1 }
  Run.resume interruption

/-- Make the rounds of a loop as long as its condition wants it. -/
def runRounds (p : Position) (whileFails : Bool) (condition body : Command) (status : Nat) :
    Nat → Run Unit
  | 0 => throw (.killed 13)
  | limit + 1 => do
      let interruption ← Run.settled (run .checked condition)
      let goesOn ← afterRound interruption
      if !goesOn then return
      else if interruption.isSome then
        runRounds p whileFails condition body (← get).status limit
      else if ((← get).status = 0) = whileFails then Run.finish status
      else do
        let interruption ← Run.settled (run p.inner body)
        if ← afterRound interruption then
          runRounds p whileFails condition body (← get).status limit

/-- Make a round of a loop for each value of a variable. -/
def runEach (p : Position) (name : NarrowText) (body : Command) : List NarrowText → Run Unit
  | [] => return
  | value :: rest => do
      Run.assign name value
      let interruption ← Run.settled (run p.inner body)
      if ← afterRound interruption then runEach p name body rest

/-- The commands behind the first pattern that matches a text. -/
def chooseClause (subject : NarrowText) :
    List (List (List Segment) × Command × ClauseEnd) → Run (Option Command)
  | [] => return none
  | (patterns, body, ending) :: rest => do
      if ← anyMatches patterns then
        match ending with
        | .ends => return some body
        | .fallsThrough => return some (rest.foldl followOn (body, true)).1
        | .looksOn =>
            match ← chooseClause subject rest with
            | some other => return some (.sequence body other)
            | none => return some body
      else chooseClause subject rest
where
  /-- Commands with those of the next clause behind them, as long as clauses
  fall through. -/
  followOn (before : Command × Bool) (clause : List (List Segment) × Command × ClauseEnd) :
      Command × Bool :=
    if before.2 then (.sequence before.1 clause.2.1, decide (clause.2.2 = .fallsThrough))
    else before
  /-- One of some patterns matches the text. -/
  anyMatches : List (List Segment) → Run Bool
    | [] => return false
    | pattern :: rest => do
        if (← expandPattern (outputOf run) pattern).accepts subject then return true
        else anyMatches rest

/-- End the shell if the status shows a failure and that is asked for. -/
def checkStatus (p : Position) : Run Unit := do
  let s ← get
  if !p.tested ∧ s.status ≠ 0 then
    match s.traps.find? fun entry => entry.1 = failureTrap with
    | some (_, action) =>
        if s.scopes.isEmpty then runTrap run s.line action
    | none => pure ()
  if !p.tested ∧ s.status ≠ 0 ∧ s.isOn 'e' = true then throw .exiting

/-- Make the rounds of a loop that counts. -/
def runCounting (p : Position) (condition next : Word) (body : Command) : Nat → Run Unit
  | 0 => throw (.killed 13)
  | limit + 1 => do
      let asked ← expandText (outputOf run) .never condition
      let goesOn ← if asked.all Numeral.isSpace then pure 1 else Run.calculate asked
      if goesOn ≠ 0 then
        let interruption ← Run.settled (run p.inner body)
        if ← afterRound interruption then
          let step ← expandText (outputOf run) .never next
          if !step.all Numeral.isSpace then
            let _ ← Run.calculate step
          runCounting p condition next body limit

/-- The number of the word of a condition. -/
def conditionNumber (text : NarrowText) : Except NarrowText Int :=
  match Numeral.integer? Numeral.marked? text with
  | some value => .ok value
  | none => .ok 0

/-- The text of an expression, in which quoted characters stand for
themselves. -/
def expressionText (word : Word) : Run NarrowText := do
  let marked := Piece.marked (← expandWord (outputOf run) false false .never true word)
  return marked.flatMap fun (c, quoted) =>
    if quoted && ".^$*+?()[]|\\\x7b\x7d".toList.contains c then ['\\', c] else [c]

/-- Whether a text has a match of an expression; the match and its groups are
kept in a variable. -/
def testExpression (subject expression : NarrowText) : Run Bool := do
  match Posix.read .full expression with
  | .error _ => do
      Run.finish 2
      return false
  | .ok (found, groups) =>
      let text := subject.toArray
      match found.find? text 0 with
      | none => do
          Run.putElements "BASH_REMATCH".toList (.numbered [])
          return false
      | some result => do
          let values := (List.range (groups + 1)).map fun number =>
            match result.group? number with
            | some extent => (text.extract extent.first extent.last).toList
            | none => []
          Run.putElements "BASH_REMATCH".toList (.ofValues values)
          return true

/-- Whether a condition holds. -/
def testCondition : Condition → Run Bool
  | .word word => return !(← expandText (outputOf run) .atStart word).isEmpty
  | .single operator word => do
      let text ← expandText (outputOf run) .atStart word
      let s ← get
      if operator = ['-', 'v'] then
        match parameterNamed? text with
        | some parameter => return (s.parameter? ⟨false, true⟩ parameter).isSome
        | none => return false
      else
        match Testing.single? operator with
        | some test =>
            match test.holds conditionNumber s.toProcess text with
            | .ok holds => return holds
            | .error _ => return false
        | none => Run.slip (operator ++ ": unary operator expected".toList)
  | .double operator first second => do
      let a ← expandText (outputOf run) .atStart first
      let b ← expandText (outputOf run) .atStart second
      match Testing.double? operator with
      | some (.numbers holds) => return holds (compare (← Run.calculate a) (← Run.calculate b))
      | some test =>
          match test.holds conditionNumber (← get).toProcess a b with
          | .ok holds => return holds
          | .error _ => return false
      | none => Run.slip (operator ++ ": binary operator expected".toList)
  | .pattern negated subject pattern => do
      let text ← expandText (outputOf run) .atStart subject
      let pattern ← expandPattern (outputOf run) pattern
      return pattern.accepts text != negated
  | .expression subject expression => do
      let text ← expandText (outputOf run) .atStart subject
      testExpression text (← expressionText run expression)
  | .not condition => return !(← testCondition condition)
  | .both first second => do
      if ← testCondition first then testCondition second else return false
  | .either first second => do
      if ← testCondition first then return true else testCondition second

/-- Run a command, given how its parts are run. -/
def stepPlain (p : Position) : Command → Run Unit
  | .nothing => return
  | .simple line assignments words redirections => do
      let body := runSimple start run p line assignments words redirections
      if (← get).extended then closingFeeds body else body
      keepStatuses [(← get).status]
      heedAll run
      checkStatus run p
  | .pipeline commands => do
      finishPipeline (← runPipeline run p none commands)
      heedAll run
      checkStatus run p
  | .negation command => do
      run .checked command
      Run.finish (if (← get).status = 0 then 1 else 0)
  | .both first second => do
      run .checked first
      if (← get).status = 0 then run p second
  | .either first second => do
      run .checked first
      if (← get).status ≠ 0 then run p second
  | .sequence first second => do
      run p.inner first
      run p second
  | .background command => addJob command
  | .subshell line body => do
      modify fun s => { s with line }
      finishWith (← inCopy run id (run p.final body))
      heedAll run
      checkStatus run p
  | .redirected line command redirections => do
      modify fun s => { s with line }
      redirecting run redirections false (run p.inner command)
  | .branch condition accepted refused => do
      run .checked condition
      if (← get).status = 0 then run p accepted
      else
        match refused with
        | some refused => run p refused
        | none => Run.finish 0
  | .loop whileFails condition body =>
      inLoop (runRounds run p.inner whileFails condition body 0 maxRounds)
  | .each line name values body => do
      modify fun s => { s with line }
      let fields ← expandFields (outputOf run) values
      Run.finish 0
      inLoop (runEach run p.inner name body fields)
  | .choice line subject clauses => do
      modify fun s => { s with line }
      let text ← expandText (outputOf run) .atStart subject
      match ← chooseClause run text clauses with
      | some body => do
          Run.finish 0
          run p body
      | none => Run.finish 0
  | .condition line condition => do
      modify fun s => { s with line, status := 0 }
      let holds ← testCondition run condition
      if (← get).status ≠ 2 then Run.finish (if holds then 0 else 1)
      checkStatus run p
  | .calculation line expression => do
      modify fun s => { s with line }
      let text ← expandText (outputOf run) .never expression
      let value ← Run.calculate text
      Run.finish (if value = 0 then 1 else 0)
      checkStatus run p
  | .counting line first condition next body => do
      modify fun s => { s with line }
      let text ← expandText (outputOf run) .never first
      if !text.all Numeral.isSpace then
        let _ ← Run.calculate text
      Run.finish 0
      inLoop (runCounting run p.inner condition next body maxRounds)
  | .definition name body => do
      modify fun s =>
        { s with
          functions := (name, body) :: s.functions.filter fun entry => entry.1 ≠ name
          status := 0 }

end

/-- Run a command whose parts are nested to a limited depth. -/
def Command.run (start : Starter) : Nat → Runner
  | 0 => fun _ _ => throw (.killed 11)
  | depth + 1 => fun p command => stepPlain start (Command.run start depth) p command

end Shell
end SyntaxCensus
