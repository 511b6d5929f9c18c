import SyntaxCensus.Host.Decimal.Arithmetic
import SyntaxCensus.Host.Text.Narrow
import SyntaxCensus.Regex.Expression

/-!
# Programs on records

A program on records says what is done before the first record, with each
record that a pattern asks for, and behind the last one.  It can have functions
and tables, and it need not say what its variables are.

Main definitions:

- `Records.Term`: what has a value.
- `Records.Statement`: what is done.
- `Records.Program`: a whole program.
-/

namespace SyntaxCensus
namespace Records

/-- Where a variable is kept: for the whole program, or for a call of a
function. -/
inductive Place where
  | shared (number : Nat)
  | own (number : Nat)
  deriving DecidableEq, Repr

/-- The variables with a meaning of their own, in the order of their
numbers. -/
def specialNames : List String :=
  ["NF", "NR", "FNR", "FS", "OFS", "ORS", "RS", "FILENAME", "SUBSEP", "RSTART", "RLENGTH",
    "CONVFMT", "OFMT", "ENVIRON", "ARGC", "ARGV"]

/-- The variables with a meaning of their own. -/
inductive Special where
  | fieldCount
  | recordNumber
  | numberInFile
  | fieldMark
  | fieldJoin
  | recordJoin
  | recordMark
  | fileName
  | keyJoin
  | matchStart
  | matchLength
  | conversion
  | outputConversion
  | environment
  | argumentCount
  | arguments
  deriving DecidableEq, Repr

/-- The number of a variable with a meaning of its own. -/
def Special.number (special : Special) : Nat :=
  special.ctorIdx

/-- What is calculated from two numbers. -/
inductive Operation where
  | add
  | subtract
  | multiply
  | divide
  | remainder
  | power
  deriving DecidableEq, Repr

/-- How two values may stand to each other. -/
inductive Relation where
  | equal
  | different
  | less
  | atMost
  | more
  | atLeast
  deriving DecidableEq, Repr

/-- The order of two values is one that a relation asks for. -/
def Relation.holds (relation : Relation) (order : Ordering) : Bool :=
  match relation with
  | .equal => order.isEq
  | .different => order.isNe
  | .less => order.isLT
  | .atMost => order.isLE
  | .more => order.isGT
  | .atLeast => order.isGE

/-- The functions that need not be defined. -/
inductive Builtin where
  | length
  | index
  | substring
  | split
  | replaceFirst
  | replaceAll
  | search
  | format
  | upper
  | lower
  | sine
  | cosine
  | arcTangent
  | exponential
  | logarithm
  | root
  | whole
  | random
  | seed
  | system
  | close
  | flush
  | seconds
  deriving DecidableEq, Repr

/-- The function of a name, if it need not be defined. -/
def builtin? (name : NarrowText) : Option Builtin :=
  match String.ofList name with
  | "length" => some .length
  | "index" => some .index
  | "substr" => some .substring
  | "split" => some .split
  | "sub" => some .replaceFirst
  | "gsub" => some .replaceAll
  | "match" => some .search
  | "sprintf" => some .format
  | "toupper" => some .upper
  | "tolower" => some .lower
  | "sin" => some .sine
  | "cos" => some .cosine
  | "atan2" => some .arcTangent
  | "exp" => some .exponential
  | "log" => some .logarithm
  | "sqrt" => some .root
  | "int" => some .whole
  | "rand" => some .random
  | "srand" => some .seed
  | "system" => some .system
  | "close" => some .close
  | "fflush" => some .flush
  | "systime" => some .seconds
  | _ => none

/-- Where a record is read from. -/
inductive Origin where
  | records
  | file
  | command
  deriving DecidableEq, Repr

/-- What has a value.  A record that is read is put in the place of the present
one if no other place is named. -/
inductive Term where
  | number (value : FloatingNumber)
  | text (written : NarrowText)
  | pattern (expression : Expression)
  | variable (place : Place)
  | field (index : Term)
  | element (table : Place) (keys : List Term)
  | assignment (target value : Term)
  | update (operation : Operation) (target value : Term)
  | step (up before : Bool) (target : Term)
  | opposite (value : Term)
  | asNumber (value : Term)
  | calculation (operation : Operation) (first second : Term)
  | comparison (relation : Relation) (first second : Term)
  | joined (first second : Term)
  | negation (value : Term)
  | both (first second : Term)
  | either (first second : Term)
  | choice (condition accepted refused : Term)
  | fits (negated : Bool) (subject pattern : Term)
  | isIn (keys : List Term) (table : Place)
  | call (function : Nat) (arguments : List Term)
  | builtin (builtin : Builtin) (arguments : List Term)
  | read (origin : Origin) (name : Term) (target : Option Term)

/-- A term to which a value can be given. -/
def Term.isTarget : Term → Bool
  | .variable _ | .field _ | .element _ _ => true
  | _ => false

/-- The number zero as a term. -/
def zeroTerm : Term := .number FloatingNumber.zero

/-- Where printed text goes. -/
inductive Direction where
  | replace
  | extend
  | command
  deriving DecidableEq, Repr

/-- What is done. -/
inductive Statement where
  | nothing
  | value (term : Term)
  | print (formatted : Bool) (values : List Term) (target : Option (Direction × Term))
  | block (statements : List Statement)
  | branch (condition : Term) (accepted : Statement) (refused : Option Statement)
  | loop (condition : Option Term) (next : Statement) (body : Statement)
  | repetition (body : Statement) (condition : Term)
  | each (key : Place) (table : Place) (body : Statement)
  | nextRecord
  | nextFile
  | exit (status : Option Term)
  | leaveLoop
  | continueLoop
  | leaveFunction (value : Option Term)
  | delete (table : Place) (keys : List Term)
  | deleteAll (table : Place)

/-- The records that something is done with.  A range from one record to
another has a number. -/
inductive Pattern where
  | always
  | one (condition : Term)
  | range (number : Nat) (first last : Term)

/-- What is done with the records that a pattern asks for. -/
structure Rule where
  pattern : Pattern
  body : Statement

/-- A function: how many parameters it has, and what it does. -/
structure Function where
  parameters : Nat
  body : Statement

/-- A whole program.  `names` are those of its variables in the order of their
numbers. -/
structure Program where
  first : List Statement
  rules : List Rule
  last : List Statement
  functions : Array Function
  names : Array NarrowText
  ranges : Nat

end Records
end SyntaxCensus
