import SyntaxCensus.Host.Text.Posix
import SyntaxCensus.Host.Tools.Options

/-!
# Calculating

Words that spell a calculation with numbers and texts, each operator a word of
its own.

Main definitions:

- `Calculating.Value`: a number or a text.
- `Calculating.matchFront`: what an expression matches at the front of a text.
- `Tools.expr`: the tool.
-/

namespace SyntaxCensus
namespace Calculating

/-- A value: a number or a text. -/
inductive Value where
  | number (value : Int)
  | text (written : NarrowText)
  deriving DecidableEq, Repr

namespace Value

/-- A value as text. -/
def toText : Value → NarrowText
  | number value => Numeral.ofInt value
  | text written => written

/-- The number that a value is or spells. -/
def toNumber? : Value → Option Int
  | number value => some value
  | text ('-' :: digits) => (Numeral.natural? digits).map fun value => -(value : Int)
  | text digits => (Numeral.natural? digits).map fun value => (value : Int)

/-- A value that counts as false: an empty text, or zero. -/
def isNull : Value → Bool
  | number value => value = 0
  | text [] => true
  | text ('-' :: digits) => !digits.isEmpty && digits.all (· = '0')
  | text digits => digits.all (· = '0')

/-- A number that says whether something holds. -/
def ofBool (holds : Bool) : Value :=
  .number (if holds then 1 else 0)

end Value

/-- What an expression matches at the front of a text: its first group, or how
many characters it matches. -/
def matchFront (text pattern : NarrowText) : Except NarrowText Value :=
  match Posix.read .basic pattern with
  | .error fault => .error fault.message.toList
  | .ok (expression, groups) =>
      let all := text.toArray
      match expression.matchAt? all 0, groups with
      | some found, 0 => .ok (.number found.extent.last)
      | some found, _ =>
          match found.group? 1 with
          | some extent => .ok (.text (all.extract extent.first extent.last).toList)
          | none => .ok (.text [])
      | none, 0 => .ok (.number 0)
      | none, _ => .ok (.text [])

/-- What the calculation knows: the words that are left, and the last one that
was read. -/
structure Reading where
  rest : List NarrowText
  last : NarrowText := []

/-- A step of calculating. -/
abbrev Step (α : Type) := StateT Reading (Except NarrowText) α

/-- Take the next word. -/
def next : Step NarrowText := do
  match (← get).rest with
  | [] => throw ("syntax error: missing argument after ".toList ++ Work.quoted (← get).last)
  | word :: rest => do
      set (⟨rest, word⟩ : Reading)
      return word

/-- Take the next word if it is among some, and tell which one it was. -/
def nextOf (names : List String) : Step (Option String) := do
  match (← get).rest with
  | [] => return none
  | word :: _ =>
      match names.find? fun name => name.toList = word with
      | some name => do
          let _ ← next
          return some name
      | none => return none

/-- The operators, those that bind least first. -/
def levels : List (List String) :=
  [["|"], ["&"], ["<", "<=", "=", "==", "!=", ">=", ">"], ["+", "-"], ["*", "/", "%"], [":"]]

/-- The order of two values, as numbers if both are numbers. -/
def compareValues (a b : Value) : Ordering :=
  match a.toNumber?, b.toNumber? with
  | some x, some y => compare x y
  | _, _ => compare (String.ofList a.toText) (String.ofList b.toText)

/-- A comparison holds for an order. -/
def holdsFor (name : String) (order : Ordering) : Bool :=
  match name with
  | "<" => order.isLT
  | "<=" => order.isLE
  | "!=" => order.isNe
  | ">=" => order.isGE
  | ">" => order.isGT
  | _ => order.isEq

/-- The value of an operator between two values. -/
def combine (name : String) (a b : Value) : Except NarrowText Value :=
  match name with
  | "|" => .ok (if !a.isNull then a else if !b.isNull then b else .number 0)
  | "&" => .ok (if a.isNull || b.isNull then .number 0 else a)
  | ":" => matchFront a.toText b.toText
  | "+" | "-" | "*" | "/" | "%" =>
      match a.toNumber?, b.toNumber? with
      | some x, some y =>
          match name with
          | "+" => .ok (.number (x + y))
          | "-" => .ok (.number (x - y))
          | "*" => .ok (.number (x * y))
          | _ =>
              if y = 0 then .error "division by zero".toList
              else .ok (.number (if name = "/" then x.tdiv y else x.tmod y))
      | _, _ => .error "non-integer argument".toList
  | _ => .ok (.ofBool (holdsFor name (compareValues a b)))

/-- The place of the first character of a set, counted from one. -/
def firstPlace (set text : NarrowText) : Nat :=
  match text.findIdx? fun c => set.contains c with
  | some i => i + 1
  | none => 0

/-- The part of a text from a place on, counted from one. -/
def part (text : NarrowText) (place length : Int) : NarrowText :=
  if place ≤ 0 ∨ length ≤ 0 then []
  else (text.drop (place.toNat - 1)).take length.toNat

mutual

/-- The value of operators from a level on; `counts` says that the value is
needed.  At most `limit` steps. -/
def levelValue (counts : Bool) (level : Nat) : Nat → Step Value
  | 0 => throw "syntax error".toList
  | limit + 1 => do
      match levels[level]? with
      | none => operand counts limit
      | some names => do
          let first ← levelValue counts (level + 1) limit
          further counts level names first limit

/-- A value with the operators of a level behind it. -/
def further (counts : Bool) (level : Nat) (names : List String) (first : Value) :
    Nat → Step Value
  | 0 => return first
  | limit + 1 => do
      match ← nextOf names with
      | none => return first
      | some name => do
          let needed :=
            counts &&
              (if name = "|" then first.isNull else if name = "&" then !first.isNull else true)
          let second ← levelValue needed (level + 1) limit
          let value ←
            if !counts then pure first
            else if !needed then
              pure (if name = "&" then .number 0 else first)
            else
              match combine name first second with
              | .ok value => pure value
              | .error problem => throw problem
          further counts level names value limit

/-- A word, a calculation in parentheses, or an operation on texts. -/
def operand (counts : Bool) : Nat → Step Value
  | 0 => throw "syntax error".toList
  | limit + 1 => do
      match ← nextOf ["+", "length", "match", "index", "substr", "(", ")"] with
      | none => return .text (← next)
      | some "+" => return .text (← next)
      | some "length" => do
          let value ← operand counts limit
          return .number value.toText.length
      | some "match" => do
          let text ← operand counts limit
          let pattern ← operand counts limit
          if counts then
            match matchFront text.toText pattern.toText with
            | .ok value => return value
            | .error problem => throw problem
          else return text
      | some "index" => do
          let text ← operand counts limit
          let set ← operand counts limit
          return .number (firstPlace set.toText text.toText)
      | some "substr" => do
          let text ← operand counts limit
          let place ← operand counts limit
          let length ← operand counts limit
          match place.toNumber?, length.toNumber? with
          | some place, some length => return .text (part text.toText place length)
          | _, _ => return .text []
      | some "(" => do
          let value ← levelValue counts 0 limit
          match (← get).rest with
          | [] => throw ("syntax error: expecting ')' after ".toList ++ Work.quoted (← get).last)
          | word :: _ => do
              if word ≠ [')'] then
                throw ("syntax error: expecting ')' instead of ".toList ++ Work.quoted word)
              let _ ← next
              return value
      | some _ => throw "syntax error: unexpected ')'".toList

end

/-- The value that words spell. -/
def calculate (words : List NarrowText) : Except NarrowText Value := do
  let (value, reading) ← (levelValue true 0 (16 * words.length + 16)).run ⟨words, []⟩
  match reading.rest with
  | [] => return value
  | word :: _ => throw ("syntax error: unexpected argument ".toList ++ Work.quoted word)

end Calculating

namespace Tools

/-- Write the value that words spell. -/
def expr : Tool := fun _ tool arguments => do
  let words := if arguments.head? = some ['-', '-'] then arguments.tail else arguments
  if words.isEmpty then misuse tool 2 "missing operand".toList
  match Calculating.calculate words with
  | .error problem => Work.fail tool 2 problem
  | .ok value => do
      Work.printLines tool [value.toText]
      return Work.statusOf (!value.isNull)

end Tools
end SyntaxCensus
