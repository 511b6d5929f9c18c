import SyntaxCensus.Host.Text.Narrow

/-!
# The command language

Scripts are made of commands.  A command is a row of words with redirections,
or is built from other commands.  Words are made of segments, some of which
hold commands that are run for their output.  The extended language adds rows
of values, further uses of parameters, and conditions and calculations as
commands.

Main definitions:

- `Shell.Word`: segments that are expanded and put together.
- `Shell.Condition`: what a command tests that is a condition.
- `Shell.Command`: the commands of a script.
-/

namespace SyntaxCensus
namespace Shell

/-- What a dollar sign with a name or a mark stands for.  All arguments are
one text if they are joined, and a text each otherwise; so are the elements of
a row. -/
inductive Parameter where
  | variable (name : NarrowText)
  | argument (position : Nat)
  | arguments (joined : Bool)
  | element (name key : NarrowText)
  | elements (name : NarrowText) (joined : Bool)
  | argumentCount
  | lastStatus
  | processNumber
  | lastJob
  | options
  deriving DecidableEq, Repr

/-- The end of a value that a pattern is cut off. -/
inductive TrimmedEnd where
  | front
  | back
  deriving DecidableEq, Repr

/-- The state of a variable that a use of it asks for. -/
inductive Presence where
  | set
  | filled
  deriving DecidableEq, Repr

/-- Where a pattern is replaced in a value. -/
inductive ReplacedPlace where
  | first
  | everywhere
  | front
  | back
  deriving DecidableEq, Repr

/-- What comes behind the commands of a clause: the end, the commands of the
next clause, or a look at the clauses that follow. -/
inductive ClauseEnd where
  | ends
  | fallsThrough
  | looksOn
  deriving DecidableEq, Repr

/-- What is done with the text that a descriptor is bound to by a here-document
or with the file that a word names. -/
inductive Access where
  | read
  | replace
  | replaceAlways
  | extend
  | readWrite
  deriving DecidableEq, Repr

mutual

/-- A part of a word.  What stands between quotes is neither split into fields
nor read as a pattern.  A feed is the name of a file with the output of
commands. -/
inductive Segment where
  | literal (quoted : Bool) (text : NarrowText)
  | parameter (quoted : Bool) (parameter : Parameter) (use : Use)
  | substitution (quoted : Bool) (body : Command)
  | arithmetic (quoted : Bool) (expression : List Segment)
  | element (quoted : Bool) (name : NarrowText) (index : List Segment) (use : Use)
  | keys (quoted : Bool) (name : NarrowText) (joined : Bool)
  | named (quoted : Bool) (parameter : Parameter) (use : Use)
  | feed (body : Command)
  | malformed

/-- What is done with a parameter. -/
inductive Use where
  | value
  | length
  | fallback (needed : Presence) (word : List Segment)
  | assignment (needed : Presence) (word : List Segment)
  | complaint (needed : Presence) (word : List Segment)
  | alternative (needed : Presence) (word : List Segment)
  | trim (trimmed : TrimmedEnd) (longest : Bool) (pattern : List Segment)
  | cut (offset : List Segment) (length : Option (List Segment))
  | replacement (place : ReplacedPlace) (pattern word : List Segment)
  | letters (upper all : Bool) (pattern : List Segment)
  | requoted

/-- What is assigned to a variable: a text, perhaps to one element, or a row of
values, some of which come with their keys. -/
inductive Assigned where
  | text (appends : Bool) (index : Option (List Segment)) (value : List Segment)
  | row (appends : Bool) (values : List (Option (List Segment) × List Segment))

/-- Where a descriptor leads while a command runs. -/
inductive Redirection where
  | file (descriptor : Nat) (access : Access) (path : List Segment)
  | duplicate (descriptor : Nat) (source : List Segment)
  | document (descriptor : Nat) (number : Nat)
  | text (descriptor : Nat) (text : List Segment)
  | outputs (access : Access) (path : List Segment)

/-- What a command tests that is a condition. -/
inductive Condition where
  | word (word : List Segment)
  | single (operator : NarrowText) (word : List Segment)
  | double (operator : NarrowText) (first second : List Segment)
  | pattern (negated : Bool) (subject pattern : List Segment)
  | expression (subject expression : List Segment)
  | not (condition : Condition)
  | both (first second : Condition)
  | either (first second : Condition)

/-- The commands of a script.  Commands that can fail at a line of the script
know its number. -/
inductive Command where
  | nothing
  | simple (line : Nat) (assignments : List (NarrowText × Assigned))
      (words : List (List Segment)) (redirections : List Redirection)
  | pipeline (commands : List Command)
  | negation (command : Command)
  | both (first second : Command)
  | either (first second : Command)
  | sequence (first second : Command)
  | background (command : Command)
  | subshell (line : Nat) (body : Command)
  | redirected (line : Nat) (command : Command) (redirections : List Redirection)
  | branch (condition accepted : Command) (refused : Option Command)
  | loop (whileFails : Bool) (condition body : Command)
  | each (line : Nat) (name : NarrowText) (values : List (List Segment)) (body : Command)
  | choice (line : Nat) (subject : List Segment)
      (clauses : List (List (List Segment) × Command × ClauseEnd))
  | definition (name : NarrowText) (body : Command)
  | condition (line : Nat) (condition : Condition)
  | calculation (line : Nat) (expression : List Segment)
  | counting (line : Nat) (first condition next : List Segment) (body : Command)

end

/-- A word: its segments in order. -/
abbrev Word := List Segment

/-- Why a script cannot be read further, and the line where that is found. -/
structure SyntaxFault where
  problem : String
  line : Nat
  deriving DecidableEq, Repr

namespace Word

/-- The word of a text in quotes. -/
def ofText (text : NarrowText) : Word :=
  [.literal true text]

/-- The text of a word that holds no quotes and nothing to expand. -/
def bare? : Word → Option NarrowText
  | [.literal false text] => some text
  | _ => none

/-- The text of a word if its quotes are taken away, as far as it holds
nothing to expand. -/
def plainText : Word → NarrowText
  | [] => []
  | .literal _ text :: rest => text ++ plainText rest
  | _ :: rest => plainText rest

end Word

/-- The redirections and the commands of a list of here-documents, by their
numbers. -/
abbrev Documents := List (Nat × Word)

end Shell
end SyntaxCensus
