import SyntaxCensus.Host.Shell.Source
import SyntaxCensus.Host.Text.Numeral

/-!
# Calculations

The expressions of arithmetic expansions: numbers of a machine word, variables
and the operators of C.

Main definitions:

- `Calculation`: the expressions.
- `Calculation.read`: the expression that a text spells.
- `BinaryOperator.result?`: what an operator gives for two numbers.
-/

namespace SyntaxCensus
namespace Shell

/-- Operators with one operand. -/
inductive UnaryOperator where
  | plus
  | minus
  | negation
  | complement
  deriving DecidableEq, Repr

/-- Operators with two operands that are both evaluated. -/
inductive BinaryOperator where
  | power
  | times
  | quotient
  | remainder
  | plus
  | minus
  | shiftLeft
  | shiftRight
  | less
  | lessEqual
  | greater
  | greaterEqual
  | equal
  | different
  | bitAnd
  | bitXor
  | bitOr
  deriving DecidableEq, Repr

/-- The expressions of arithmetic.  A step changes a variable by one, and its
value is that before the change if `late` says so. -/
inductive Calculation where
  | number (value : Int)
  | variable (name : NarrowText)
  | unary (operator : UnaryOperator) (operand : Calculation)
  | binary (operator : BinaryOperator) (first second : Calculation)
  | both (first second : Calculation)
  | either (first second : Calculation)
  | choice (condition accepted refused : Calculation)
  | assignment (operator : Option BinaryOperator) (name : NarrowText) (value : Calculation)
  | step (name : NarrowText) (change : Int) (late : Bool)
  | sequence (first second : Calculation)
  deriving Repr

/-! ## Operators -/

/-- One for true, and zero for false. -/
def truth (value : Bool) : Int :=
  if value then 1 else 0

/-- What an operator gives for a number. -/
def UnaryOperator.apply (operator : UnaryOperator) (value : Int) : Int :=
  match operator with
  | .plus => value
  | .minus => Numeral.wrap (-value)
  | .negation => truth (value = 0)
  | .complement => -value - 1

namespace BinaryOperator

/-- The machine word with the bits of a number. -/
def bits (value : Int) : UInt64 :=
  UInt64.ofInt value

/-- The number with the bits of a machine word. -/
def ofBits (bits : UInt64) : Int :=
  Numeral.wrap bits.toNat

/-- A number multiplied with itself. -/
def powerOf (base : Int) (exponent : Nat) : Int :=
  Nat.rec 1 (fun _ value => Numeral.wrap (value * base)) exponent

/-- What an operator gives for two numbers; a division by zero has no
result. -/
def result? (operator : BinaryOperator) (a b : Int) : Option Int :=
  match operator with
  | power => some (powerOf a b.toNat)
  | times => some (Numeral.wrap (a * b))
  | quotient => if b = 0 then none else some (Numeral.wrap (Int.tdiv a b))
  | remainder => if b = 0 then none else some (Int.tmod a b)
  | plus => some (Numeral.wrap (a + b))
  | minus => some (Numeral.wrap (a - b))
  | shiftLeft => some (ofBits (bits a <<< bits b))
  | shiftRight => some (Int.shiftRight a (b.emod 64).toNat)
  | less => some (truth (a < b))
  | lessEqual => some (truth (a ≤ b))
  | greater => some (truth (b < a))
  | greaterEqual => some (truth (b ≤ a))
  | equal => some (truth (a = b))
  | different => some (truth (a ≠ b))
  | bitAnd => some (ofBits (bits a &&& bits b))
  | bitXor => some (ofBits (bits a ^^^ bits b))
  | bitOr => some (ofBits (bits a ||| bits b))

end BinaryOperator

namespace Calculation

/-! ## Marks and numbers -/

/-- What a calculation is written with. -/
inductive Lexeme where
  | number (value : Int)
  | name (text : NarrowText)
  | mark (text : String)
  | unknown
  deriving DecidableEq, Repr

/-- The marks, those first that begin with others. -/
def marks : List String :=
  ["<<=", ">>=", "<<", ">>", "<=", ">=", "==", "!=", "&&", "||", "*=", "/=", "%=", "+=", "-=",
    "&=", "^=", "|=", "=", "<", ">", "&", "|", "^", "+", "-", "*", "/", "%", "!", "~", "?", ":",
    "(", ")"]

/-- The marks of the extended notation that `marks` does not have. -/
def furtherMarks : List String :=
  ["**", "++", "--", ","]

/-- A number in front, cut to a machine word, and what follows. -/
def readNumber (extended : Bool) (text : NarrowText) : Int × NarrowText :=
  let base := text.takeWhile Char.isDigit
  match text.dropWhile Char.isDigit with
  | '#' :: rest =>
      if extended then
        let digits := rest.takeWhile isNameCharacter
        (Numeral.wrap (Numeral.ofDigits (Numeral.ofDigits 10 base) digits),
          rest.dropWhile isNameCharacter)
      else prefixed text
  | _ => prefixed text
where
  /-- A number whose front tells its base. -/
  prefixed (text : NarrowText) : Int × NarrowText :=
    match Numeral.marked? text with
    | some (value, after) => (Numeral.clamp value, after)
    | none => (0, text.tail)

/-- The index in brackets in front of a text, with its brackets. -/
def indexInFront (text : NarrowText) : NarrowText :=
  match text with
  | '[' :: rest => if rest.contains ']' then '[' :: upTo 0 rest else []
  | _ => []
where
  /-- The text up to the bracket that closes the one before it. -/
  upTo (depth : Nat) : NarrowText → NarrowText
    | [] => []
    | ']' :: rest =>
        match depth with
        | 0 => [']']
        | depth + 1 => ']' :: upTo depth rest
    | '[' :: rest => '[' :: upTo (depth + 1) rest
    | c :: rest => c :: upTo depth rest

/-- The lexemes of a text, at most `limit` of them. -/
def lexemes (extended : Bool) : Nat → NarrowText → List Lexeme
  | 0, _ | _, [] => []
  | limit + 1, c :: rest =>
      if c = ' ' ∨ c = '\t' ∨ c = '\n' then lexemes extended limit rest
      else if c.isDigit then
        let (value, after) := readNumber extended (c :: rest)
        .number value :: lexemes extended limit after
      else if isNameStart c then
        let name := (c :: rest).takeWhile isNameCharacter
        let index := if extended then indexInFront ((c :: rest).drop name.length) else []
        .name (name ++ index) ::
          lexemes extended limit ((c :: rest).drop (name.length + index.length))
      else
        let known := if extended then furtherMarks ++ marks else marks
        match known.find? fun mark => mark.toList.isPrefixOf (c :: rest) with
        | some mark => .mark mark :: lexemes extended limit ((c :: rest).drop mark.length)
        | none => .unknown :: lexemes extended limit rest

/-! ## Reading -/

/-- Why a calculation cannot be read. -/
inductive Problem where
  | expecting (what : String)
  deriving DecidableEq, Repr

/-- A step of reading. -/
abbrev Step (α : Type) := StateT (List Lexeme) (Except Problem) α

/-- End with a problem. -/
def fail {α : Type} (what : String) : Step α :=
  throw (Problem.expecting what)

/-- Take the next lexeme if it is a mark. -/
def takeMark (text : String) : Step Bool := do
  match ← get with
  | .mark found :: rest =>
      if found = text then
        set rest
        return true
      else return false
  | _ => return false

/-- The operators with two operands and how tightly they bind. -/
def binaryOperators : List (String × BinaryOperator × Nat) :=
  [("**", .power, 9), ("*", .times, 8), ("/", .quotient, 8), ("%", .remainder, 8), ("+", .plus, 7),
    ("-", .minus, 7), ("<<", .shiftLeft, 6), (">>", .shiftRight, 6), ("<", .less, 5),
    ("<=", .lessEqual, 5), (">", .greater, 5), (">=", .greaterEqual, 5), ("==", .equal, 4),
    ("!=", .different, 4), ("&", .bitAnd, 3), ("^", .bitXor, 2), ("|", .bitOr, 1)]

/-- The operator of a mark, with how tightly it binds. -/
def operator? (mark : String) : Option (BinaryOperator × Nat) :=
  (binaryOperators.find? fun entry => entry.1 = mark).map Prod.snd

/-- The operator of a mark that assigns, if it has one. -/
def assigning? (mark : String) : Option (Option BinaryOperator) :=
  if mark = "=" then some none
  else if ["==", "<=", ">=", "!="].contains mark then none
  else
    match mark.toList.reverse with
    | '=' :: front => (operator? (String.ofList front.reverse)).map fun found => some found.1
    | _ => none

/-- The operators that stand before an operand. -/
def unary? : String → Option UnaryOperator
  | "+" => some .plus
  | "-" => some .minus
  | "!" => some .negation
  | "~" => some .complement
  | _ => none

mutual

/-- An assignment or an expression without one.  The number of steps is
limited, as for all readers of calculations. -/
def readAssignment : Nat → Step Calculation
  | 0 => fail "primary"
  | limit + 1 => do
      match ← get with
      | .name name :: .mark mark :: rest =>
          match assigning? mark with
          | some operator => do
              set rest
              return .assignment operator name (← readAssignment limit)
          | none => readChoice limit
      | _ => readChoice limit

/-- An expression with a condition, or one without. -/
def readChoice : Nat → Step Calculation
  | 0 => fail "primary"
  | limit + 1 => do
      let condition ← readEither limit
      if ← takeMark "?" then
        let accepted ← readAssignment limit
        if !(← takeMark ":") then fail "':'"
        return .choice condition accepted (← readChoice limit)
      else return condition

/-- Expressions of which one has to be true. -/
def readEither : Nat → Step Calculation
  | 0 => fail "primary"
  | limit + 1 => do
      let first ← readBoth limit
      if ← takeMark "||" then return .either first (← readEither limit) else return first

/-- Expressions that all have to be true. -/
def readBoth : Nat → Step Calculation
  | 0 => fail "primary"
  | limit + 1 => do
      let first ← readBinary 1 (← readPrimary limit) limit
      if ← takeMark "&&" then return .both first (← readBoth limit) else return first

/-- Further operators and operands behind one that is read; only operators are
taken that bind at least as tightly as `least`. -/
def readBinary (least : Nat) (first : Calculation) : Nat → Step Calculation
  | 0 => fail "primary"
  | limit + 1 => do
      match ← get with
      | .mark mark :: rest =>
          match operator? mark with
          | none => return first
          | some (operator, tightness) =>
              if tightness < least then return first
              else do
                set rest
                let inner := if operator = .power then tightness else tightness + 1
                let second ← readBinary inner (← readPrimary limit) limit
                readBinary least (.binary operator first second) limit
      | _ => return first

/-- A number, a variable, an expression in parentheses, or an operator with
one of these. -/
def readPrimary : Nat → Step Calculation
  | 0 => fail "primary"
  | limit + 1 => do
      match ← get with
      | .number value :: rest => do
          set rest
          return .number value
      | .name name :: .mark "++" :: rest => do
          set rest
          return .step name 1 true
      | .name name :: .mark "--" :: rest => do
          set rest
          return .step name (-1) true
      | .name name :: rest => do
          set rest
          return .variable name
      | .mark "++" :: .name name :: rest => do
          set rest
          return .step name 1 false
      | .mark "--" :: .name name :: rest => do
          set rest
          return .step name (-1) false
      | .mark "(" :: rest => do
          set rest
          let inner ← readSequence limit
          if !(← takeMark ")") then fail "')'"
          return inner
      | .mark mark :: rest =>
          match unary? mark with
          | some operator => do
              set rest
              return .unary operator (← readPrimary limit)
          | none => fail "primary"
      | _ => fail "primary"

/-- Expressions with commas between them. -/
def readSequence : Nat → Step Calculation
  | 0 => fail "primary"
  | limit + 1 => do
      let first ← readAssignment limit
      if ← takeMark "," then return .sequence first (← readSequence limit) else return first

end

/-- The expression that a text spells.  For each lexeme there are at most eight
steps of reading. -/
def read (extended : Bool) (text : NarrowText) : Except Problem Calculation := do
  let all := lexemes extended text.length text
  match (readSequence (8 * (all.length + 1))).run all with
  | .error problem => .error problem
  | .ok (found, []) => .ok found
  | .ok (_, _ :: _) => .error (.expecting "EOF")

end Calculation
end Shell
end SyntaxCensus
