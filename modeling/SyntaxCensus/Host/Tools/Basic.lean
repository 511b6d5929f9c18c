import SyntaxCensus.Host.Process.Starting
import SyntaxCensus.Host.Tools.Names

/-!
# Tools

The programs that every system has.  A tool works on a process that is already
set up, and ends with a status or is killed.

Main definitions:

- `Work`: a step of what a tool does.
- `Tool`: what a tool does with its arguments.
- `Work.readNamed`: the text of a file or of the input.
- `Work.complain`: a line of diagnostics.
-/

namespace SyntaxCensus

/-- A step of what a tool does.  It can end the tool at once. -/
abbrev Work (α : Type) := ExceptT Ending (StateM Process) α

/-- What a tool does with its arguments: it can start programs, and knows the
name that it is called by.  The result is its status. -/
abbrev Tool := Starter → NarrowText → List NarrowText → Work Nat

namespace Work

/-- End with a status. -/
def exit {α : Type} (status : Nat) : Work α :=
  throw (.exited status)

/-- Change the process. -/
def onProcess (change : Process → Process) : Work Unit :=
  modify change

/-- Write text on a descriptor, and tell why that is not possible. -/
def write? (descriptor : Nat) (text : NarrowText) : Work (Option SystemFault) :=
  modifyGet fun s => s.write? descriptor text

/-- Write a line of diagnostics. -/
def printDiagnostic (text : NarrowText) : Work Unit :=
  modify fun s => s.complain text

/-- Complain in the name of a tool. -/
def complain (tool : NarrowText) (message : NarrowText) : Work Unit :=
  printDiagnostic (tool ++ ": ".toList ++ message)

/-- Complain in the name of a tool and end it. -/
def fail {α : Type} (tool : NarrowText) (status : Nat) (message : NarrowText) : Work α := do
  complain tool message
  exit status

/-- Write text on the output; a tool that cannot do so ends. -/
def print (tool : NarrowText) (text : NarrowText) : Work Unit := do
  match ← write? 1 text with
  | none => return
  | some fault => fail tool 1 ("write error: ".toList ++ fault.description.toList)

/-- Write lines on the output. -/
def printLines (tool : NarrowText) (lines : List NarrowText) : Work Unit :=
  print tool (lines.flatMap fun line => line ++ ['\n'])

/-- A name in a message, before a colon. -/
def shownName (name : NarrowText) : NarrowText :=
  Shown.word true name

/-- A name in a message, between other words. -/
def quotedName (name : NarrowText) : NarrowText :=
  Shown.quotedWord name

/-- A text between quotation marks. -/
def quoted (text : NarrowText) : NarrowText :=
  Shown.text text

/-- Complain about a file. -/
def complainAbout (tool name : NarrowText) (fault : SystemFault) : Work Unit :=
  complain tool (shownName name ++ ": ".toList ++ fault.description.toList)

/-! ## Reading -/

/-- All that is left of a descriptor. -/
def takeAll (descriptor : Nat) : Work (Except SystemFault NarrowText) :=
  modifyGet fun s => s.takeAll descriptor

/-- The text of a file, or that of the input for a dash. -/
def readNamed (name : NarrowText) : Work (Except SystemFault NarrowText) := do
  if name = ['-'] then takeAll 0
  else return (← get).readFile name

/-- The names that a tool reads from: the input if none are given. -/
def orInput (names : List NarrowText) : List NarrowText :=
  if names.isEmpty then [['-']] else names

/-- The texts of files with their names.  A file that cannot be read is
complained about; the flag says that there was none. -/
def readTexts (tool : NarrowText) : List NarrowText →
    Work (List (NarrowText × NarrowText) × Bool)
  | [] => return ([], true)
  | name :: rest => do
      match ← readNamed name with
      | .ok text => do
          let (others, fine) ← readTexts tool rest
          return ((name, text) :: others, fine)
      | .error fault => do
          complainAbout tool name fault
          let (others, _) ← readTexts tool rest
          return (others, false)

/-- The status of success or of failure. -/
def statusOf (fine : Bool) : Nat :=
  if fine then 0 else 1

/-! ## Starting programs -/

/-- Start a program by its name and wait for it. -/
def call (start : Starter) (words : List NarrowText) : Work (Except SystemFault Ending) :=
  modifyGet fun s =>
    match s.call start words with
    | .ok (ending, after) => (.ok ending, after)
    | .error fault => (.error fault, s)

/-- Put a program in the place of the tool. -/
def become (start : Starter) (words : List NarrowText) : Work SystemFault := do
  match (← get).launch start words with
  | .ok (ending, after) => do
      set after
      throw ending
  | .error fault => return fault

/-- Run a tool as a process. -/
def finish (work : Work Nat) (s : Process) : Ending × Process :=
  let (outcome, after) := (work.run s : Except Ending Nat × Process)
  match outcome with
  | .ok status => (.exited (status % 256), after)
  | .error (.exited status) => (.exited (status % 256), after)
  | .error ending => (ending, after)

end Work

/-! ## Lines -/

/-- The lines of a text.  What follows the last line end is a line only if it
is not empty. -/
def linesOf (mark : Char) (text : NarrowText) : List NarrowText :=
  match (Text.stretches mark text).reverse with
  | [] :: rest => rest.reverse
  | all => all.reverse

/-- The lines of a text with their ends; the last one may have none. -/
def wholeLines (text : NarrowText) : List NarrowText :=
  match (Text.stretches '\n' text).reverse with
  | [] => []
  | last :: rest =>
      (rest.map fun line => line ++ ['\n']).reverse ++ if last.isEmpty then [] else [last]

end SyntaxCensus
