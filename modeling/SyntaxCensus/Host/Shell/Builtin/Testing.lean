import SyntaxCensus.Host.Process.Counted
import SyntaxCensus.Host.Shell.Builtin.Variables
import SyntaxCensus.Host.Shell.Evaluation

/-!
# Testing

Conditions on texts, numbers and files, as words of a command spell them.

Main definitions:

- `Testing.Operator`: what can be tested.
- `Testing.evaluate`: whether the condition that words spell holds.
- `Builtin.test`: the command.
-/

namespace SyntaxCensus

namespace Testing

/-- The words that have a meaning in conditions. -/
inductive Operator where
  | single (test : Single)
  | double (test : Double)
  | not
  | and
  | or
  | opening
  | closing

/-- The meaning of a word in a condition. -/
def operator? (word : NarrowText) : Option Operator :=
  match single? word, double? word with
  | some test, _ => some (.single test)
  | none, some test => some (.double test)
  | none, none =>
      match String.ofList word with
      | "!" => some .not
      | "-a" => some .and
      | "-o" => some .or
      | "(" => some .opening
      | ")" => some .closing
      | _ => none

/-- A word stands between two others as the operator of a test. -/
def isDouble (word : NarrowText) : Bool :=
  match operator? word with
  | some (.double _) => true
  | _ => false

/-- What the first of some words is: an operator, an operand, or nothing. -/
inductive Role where
  | ending
  | operand
  | operator (found : Operator)

/-- What the first of some words is.  The name of a test is an operand if
nothing follows it, or if another test follows it. -/
def role (words : List NarrowText) : Role :=
  match words with
  | [] => .ending
  | word :: rest =>
      match operator? word with
      | none => .operand
      | some (.single test) =>
          match rest with
          | [] => .operand
          | [_] => .operator (.single test)
          | next :: _ => if isDouble next then .operand else .operator (.single test)
      | some .opening => if rest.isEmpty then .operand else .operator .opening
      | some other => .operator other

/-- A step of testing: the words from the present one on, and a complaint. -/
abbrev Step (α : Type) := StateT (List NarrowText) (Except NarrowText) α

/-- The number that a text spells. -/
def number (text : NarrowText) : Except NarrowText Int :=
  match Numeral.integer? Numeral.decimal? text with
  | some value => .ok value
  | none => .error ("Illegal number: ".toList ++ text)

/-- Whether a test of two texts holds.  Ages are told apart only if both entries
exist, and all entries are of one age. -/
def holds (s : Process) (test : Double) (first second : NarrowText) : Except NarrowText Bool :=
  match test with
  | .newer | .older => .ok false
  | test => test.holds number s first second

/-- Go on at the next word. -/
def advance : Step Unit :=
  modify List.tail

mutual

/-- Conditions of which one has to hold.  The words stay at the last one that
belongs to the condition; the number of steps is limited. -/
def either (s : Process) (r : Role) : Nat → Step Bool
  | 0 => return false
  | limit + 1 => do
      let first ← both s r limit
      match role (← get).tail with
      | .operator .or => do
          advance
          advance
          let second ← either s (role (← get)) limit
          return first || second
      | _ => return first

/-- Conditions that all have to hold. -/
def both (s : Process) (r : Role) : Nat → Step Bool
  | 0 => return false
  | limit + 1 => do
      let first ← negated s r limit
      match role (← get).tail with
      | .operator .and => do
          advance
          advance
          let second ← both s (role (← get)) limit
          return first && second
      | _ => return first

/-- A condition, or one that must not hold. -/
def negated (s : Process) (r : Role) : Nat → Step Bool
  | 0 => return false
  | limit + 1 => do
      match r with
      | .operator .not => do
          let next := role (← get).tail
          match next with
          | .ending => return !(← negated s next limit)
          | _ => do
              advance
              return !(← negated s next limit)
      | _ => primary s r limit

/-- A test, or a condition in parentheses. -/
def primary (s : Process) (r : Role) : Nat → Step Bool
  | 0 => return false
  | limit + 1 => do
      match r with
      | .ending => return false
      | .operator .opening => do
          advance
          match role (← get) with
          | .operator .closing => return false
          | inner => do
              let holds ← either s inner limit
              advance
              match role (← get) with
              | .operator .closing => return holds
              | _ => throw "closing paren expected".toList
      | .operator (.single test) => do
          let name := (← get).headD []
          advance
          match ← get with
          | [] => throw (name ++ ": argument expected".toList)
          | text :: _ => test.holds number s text
      | _ => do
          let words ← get
          match role words.tail with
          | .operator (.double test) => do
              let first := words.headD []
              let name := words.tail.headD []
              advance
              advance
              match ← get with
              | [] => throw (name ++ ": argument expected".toList)
              | second :: _ => holds s test first second
          | _ => return !(words.headD []).isEmpty

end

/-- The condition that words spell, where the first of them has a role. -/
def whole (s : Process) (r : Role) (words : List NarrowText) : Except NarrowText Bool := do
  let (holds, rest) ← (either s r (4 * words.length + 8)).run words
  match rest with
  | word :: _ :: _ => throw (word ++ ": unexpected operator".toList)
  | _ => return holds

/-- Whether the condition that words spell holds.  Three and four words are
looked at first for a test in the middle, parentheses or a negation around the
others. -/
def evaluate (s : Process) (words : List NarrowText) : Except NarrowText Bool :=
  match words with
  | [] => .ok false
  | [a, b, c] =>
      if isDouble b then whole s .operand words
      else if a = ['('] ∧ c = [')'] then whole s (role [b]) [b]
      else if a = ['!'] then (evaluate s [b, c]).map not
      else whole s (role words) words
  | [a, b, c, d] =>
      if a = ['('] ∧ d = [')'] then whole s (role [b, c]) [b, c]
      else if a = ['!'] then (evaluate s [b, c, d]).map not
      else whole s (role words) words
  | words => whole s (role words) words

end Testing

namespace Shell
namespace Builtin

/-- Finish with what a condition says. -/
def testWords (words : List NarrowText) : Run Unit := do
  match Testing.evaluate (← get).toProcess words with
  | .ok holds => Run.finish (if holds then 0 else 1)
  | .error problem => Run.fault problem

/-- The conditions of the extended language. -/
def richConditions (s : State) : ConditionStyle where
  missing := fun _ => "argument expected".toList
  noSingle := fun word => word ++ ": unary operator expected".toList
  noPair := fun word => word ++ ": unary operator expected".toList
  noDouble := fun word => word ++ ": binary operator expected".toList
  extra := fun _ => "too many arguments".toList
  unclosed := fun found =>
    match found with
    | none => "\x60)' expected".toList
    | some word => "\x60)' expected, found ".toList ++ word
  number := fun text =>
    match Numeral.signed? Numeral.decimal? text with
    | some (value, rest) =>
        if rest.all Numeral.isSpace then .ok value
        else .error (text ++ ": integer expression expected".toList)
    | none => .error (text ++ ": integer expression expected".toList)
  further := fun word =>
    match word with
    | ['-', 'v'] => some fun name =>
        match Run.splitIndex name with
        | (name, none) => (s.value? name).isSome
        | (name, some ['@']) => !(s.elementsOf name).isEmpty
        | (name, some index) => (s.element? name index).isSome
    | ['-', 'o'] => some fun name =>
        (Settings.extendedModes.find? fun mode => mode.1.toList = name).any
          fun mode => s.isOn mode.2
    | _ => none

/-- Finish with what a condition of the extended language says. -/
def testRich (words : List NarrowText) : Run Unit := do
  let s ← get
  match Counted.evaluate (richConditions s) s.toProcess words with
  | .ok holds => Run.finish (if holds then 0 else 1)
  | .error problem => do
      Run.complain problem
      Run.finish 2

/-- Test a condition that a bracket ends in the extended language. -/
def bracketRich : Builtin := fun arguments => do
  match arguments.reverse with
  | [']'] :: words => testRich words.reverse
  | _ => do
      Run.complain "missing \x60]'".toList
      Run.finish 2

/-- Test a condition. -/
def test : Builtin := testWords

/-- Test a condition that a bracket ends. -/
def bracket : Builtin := fun arguments => do
  match arguments.reverse with
  | [']'] :: words => testWords words.reverse
  | _ => Run.fault "missing ]".toList

end Builtin
end Shell
end SyntaxCensus
