import SyntaxCensus.Host.Text.Narrow
import SyntaxCensus.Regex.Matching

/-!
# Scripts that edit

A script is a row of commands, each of which applies to some lines of a text.

Main definitions:

- `Editing.Condition`: the lines that a command applies to.
- `Editing.Substitution`: what is put in the place of a match.
- `Editing.Action`: what a command does.
- `Editing.Script`: commands in a row.
-/

namespace SyntaxCensus
namespace Editing

/-! ## Lines -/

/-- A line that a command can ask for.  An expression that is left out is the
one that was used last. -/
inductive Address where
  | line (number : Nat)
  | last
  | step (first step : Nat)
  | holding (expression : Option Expression)

/-- Where a range of lines ends. -/
inductive RangeEnd where
  | found (address : Address)
  | after (count : Nat)
  | multiple (factor : Nat)

/-- The lines that a command applies to. -/
inductive Condition where
  | always
  | one (address : Address)
  | range (first : Address) (last : RangeEnd)

/-! ## Substitutions -/

/-- A change of letters: from now on, or for the next one only. -/
inductive CaseChange where
  | upper
  | lower
  | none
  | upperNext
  | lowerNext
  deriving DecidableEq, Repr

/-- A part of what is put in the place of a match. -/
inductive Part where
  | text (written : NarrowText)
  | group (number : Nat)
  | change (change : CaseChange)
  deriving DecidableEq, Repr

/-- What is put in the place of a match: from which match on, whether all of
them are replaced, how often the result is printed, and the file that it is
written to. -/
structure Substitution where
  expression : Option Expression
  parts : List Part
  number : Nat := 1
  everywhere : Bool := false
  prints : Bool := false
  file : Option NarrowText := none

/-! ## Commands -/

/-- When a jump is made. -/
inductive JumpTime where
  | always
  | replaced
  | notReplaced
  deriving DecidableEq, Repr

/-- What a command does.  The commands of a block are passed over up to a
place if the block does not apply. -/
inductive Action where
  | enter (behind : Nat)
  | nothing
  | append (text : NarrowText)
  | insert (text : NarrowText)
  | change (text : NarrowText)
  | jump (time : JumpTime) (target : Option Nat)
  | delete
  | deleteLine
  | print
  | printLine
  | number
  | name
  | hold
  | holdMore
  | fetch
  | fetchMore
  | exchange
  | next
  | nextMore
  | quit (prints : Bool) (status : Nat)
  | reveal (width : Option Nat)
  | readFile (name : NarrowText)
  | readLine (name : NarrowText)
  | writeFile (name : NarrowText)
  | writeLine (name : NarrowText)
  | substitute (substitution : Substitution)
  | translate (wanted images : NarrowText)
  | clear

/-- A command: when it applies, and what it does. -/
structure Command where
  condition : Condition
  negated : Bool
  action : Action

/-- Commands in a row.  `silent` says that lines are printed only if a command
does so. -/
structure Script where
  commands : Array Command
  silent : Bool

/-- The files that a script writes to. -/
def Script.targets (script : Script) : List NarrowText :=
  script.commands.toList.filterMap fun command =>
    match command.action with
    | .writeFile name | .writeLine name => some name
    | .substitute substitution => substitution.file
    | _ => none

end Editing
end SyntaxCensus
