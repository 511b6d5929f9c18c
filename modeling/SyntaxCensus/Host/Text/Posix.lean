import SyntaxCensus.Host.Text.Numeral
import SyntaxCensus.Regex.Matching

/-!
# The notations of POSIX

Tools know two notations for expressions.  In the basic one, marks for groups,
choices and counts have a backslash; in the extended one they have none, and a
backslash takes the meaning away.

Main definitions:

- `Posix.Dialect`: what the notations differ in.
- `Posix.read`: the expression that a text spells.
- `Posix.Fault.message`: why there is none, in words.
-/

namespace SyntaxCensus
namespace Posix

/-- What the notations differ in.  Edges of lines can be meant instead of
those of the text, and a backslash may have a meaning between brackets. -/
structure Dialect where
  extended : Bool
  lines : Bool := false
  escapes : Bool := false
  deriving DecidableEq, Repr

/-- The basic notation. -/
def Dialect.basic : Dialect := { extended := false }

/-- The extended notation. -/
def Dialect.full : Dialect := { extended := true }

/-- Why a text spells no expression. -/
inductive Fault where
  | nothingInBrackets
  | unmatchedBracket
  | unmatchedOpening
  | unmatchedClosing
  | unmatchedBrace
  | invalidCount
  | countTooBig
  | invalidReference
  | trailingBackslash
  | invalidRange
  | invalidClass
  | invalidPreceding
  deriving DecidableEq, Repr

/-- Why a text spells no expression, in words. -/
def Fault.message : Fault → String
  | nothingInBrackets => "Invalid regular expression"
  | unmatchedBracket => "Unmatched [, [^, [:, [., or [="
  | unmatchedOpening => "Unmatched ( or \\("
  | unmatchedClosing => "Unmatched ) or \\)"
  | unmatchedBrace => "Unmatched \\\x7b"
  | invalidCount => "Invalid content of \\\x7b\\\x7d"
  | countTooBig => "Regular expression too big"
  | invalidReference => "Invalid back reference"
  | trailingBackslash => "Trailing backslash"
  | invalidRange => "Invalid range end"
  | invalidClass => "Invalid character class name"
  | invalidPreceding => "Invalid preceding regular expression"

/-- What is left of a text, how many groups were opened, and how many are
open. -/
structure Source where
  rest : NarrowText
  groups : Nat := 0
  depth : Nat := 0
  closed : List Nat := []

/-- A step of reading. -/
abbrev Step (α : Type) := StateT Source (Except Fault) α

/-- Go on with another text. -/
def goOn (rest : NarrowText) : Step Unit :=
  modify fun source => { source with rest }

/-! ## Sets -/

/-- The name between two marks in brackets, and what follows. -/
def named? (mark : Char) (text : NarrowText) : Option (NarrowText × NarrowText) :=
  let name := text.takeWhile (· ≠ mark)
  match text.dropWhile (· ≠ mark) with
  | _ :: ']' :: rest => some (name, rest)
  | _ => none

/-- A member of a set: a character that may begin a range, or a set. -/
inductive Member where
  | character (c : Char)
  | set (set : CharacterSet)

/-- The character that a letter after a backslash stands for. -/
def escape? : Char → Option Char
  | 'n' => some '\n'
  | 't' => some '\t'
  | 'r' => some '\r'
  | 'f' => some '\x0c'
  | 'v' => some '\x0b'
  | 'a' => some '\x07'
  | _ => none

/-- The member in front, and what follows. -/
def readMember (escapes : Bool) (text : NarrowText) : Except Fault (Member × NarrowText) :=
  match text with
  | [] => .error .unmatchedBracket
  | '[' :: ':' :: rest =>
      match named? ':' rest with
      | none => .error .unmatchedBracket
      | some (name, after) =>
          match CharacterSet.named? (String.ofList name) with
          | some set => .ok (.set set, after)
          | none => .error .invalidClass
  | '[' :: '.' :: rest =>
      match named? '.' rest with
      | some ([c], after) => .ok (.character c, after)
      | some _ => .error .invalidClass
      | none => .error .unmatchedBracket
  | '[' :: '=' :: rest =>
      match named? '=' rest with
      | some ([c], after) => .ok (.set (.single c), after)
      | some _ => .error .invalidClass
      | none => .error .unmatchedBracket
  | '\\' :: c :: rest =>
      if escapes then .ok (.character ((escape? c).getD c), rest)
      else .ok (.character '\\', c :: rest)
  | c :: rest => .ok (.character c, rest)

/-- The set between brackets up to the bracket that closes it, which may not be
the first character; at most `limit` members. -/
def readSet (escapes first : Bool) (set : CharacterSet) :
    Nat → NarrowText → Except Fault (CharacterSet × NarrowText)
  | 0, _ | _, [] => .error .unmatchedBracket
  | limit + 1, c :: rest =>
      if c = ']' ∧ first = false then .ok (set, rest)
      else
        match readMember escapes (c :: rest) with
        | .error fault => .error fault
        | .ok (.set inner, after) => readSet escapes false (.union set inner) limit after
        | .ok (.character low, '-' :: d :: after) =>
            if d = ']' then
              readSet escapes false (.union set (.single low)) limit ('-' :: d :: after)
            else
              match readMember escapes (d :: after) with
              | .ok (.character high, after) =>
                  if high < low then .error .invalidRange
                  else
                    readSet escapes false (.union set (.range low.toNat high.toNat)) limit after
              | .ok (.set _, _) => .error .invalidRange
              | .error fault => .error fault
        | .ok (.character c, after) =>
            readSet escapes false (.union set (.single c)) limit after

/-- The set behind an opening bracket. -/
def readBrackets (d : Dialect) : Step CharacterSet := do
  let rest := (← get).rest
  let (negated, inner) :=
    match rest with
    | '^' :: more => (true, more)
    | more => (false, more)
  if inner.isEmpty then throw .nothingInBrackets
  match readSet d.escapes true .empty (inner.length + 1) inner with
  | .error fault => throw fault
  | .ok (set, after) => do
      goOn after
      return if negated then .complement set else set

/-! ## Counts -/

/-- How often something has to occur at least and at most. -/
structure Count where
  least : Nat
  most : Option Nat
  deriving DecidableEq, Repr

/-- The greatest number of repetitions. -/
def maxCount : Nat := 32767

/-- The count between braces, and what follows; none if there is no count. -/
def count? (d : Dialect) (text : NarrowText) : Option (Except Fault (Count × NarrowText)) :=
  let (low, after) := Numeral.takeDigits 10 text
  let (high, after) : Option NarrowText × NarrowText :=
    match after with
    | ',' :: more =>
        let (digits, after) := Numeral.takeDigits 10 more
        (some digits, after)
    | other => (none, other)
  let after? : Option NarrowText :=
    if d.extended then
      match after with
      | '\x7d' :: rest => some rest
      | _ => none
    else
      match after with
      | '\\' :: '\x7d' :: rest => some rest
      | _ => none
  match after? with
  | none => none
  | some rest =>
      if low.isEmpty && high.isNone then some (.error .invalidCount)
      else
        let least := Numeral.ofDigits 10 low
        let most :=
          match high with
          | none => some least
          | some [] => none
          | some digits => some (Numeral.ofDigits 10 digits)
        if most.any fun most => most < least then some (.error .invalidCount)
        else if maxCount < most.getD least then some (.error .countTooBig)
        else some (.ok (⟨least, most⟩, rest))

/-- The mark of a repetition in front, and what follows. -/
def repetition? (d : Dialect) (text : NarrowText) :
    Option (Except Fault (Count × NarrowText)) :=
  match text with
  | '*' :: rest => some (.ok (⟨0, none⟩, rest))
  | '+' :: rest => if d.extended then some (.ok (⟨1, none⟩, rest)) else none
  | '?' :: rest => if d.extended then some (.ok (⟨0, some 1⟩, rest)) else none
  | '\x7b' :: rest => if d.extended then count? d rest else none
  | '\\' :: '+' :: rest => if d.extended then none else some (.ok (⟨1, none⟩, rest))
  | '\\' :: '?' :: rest => if d.extended then none else some (.ok (⟨0, some 1⟩, rest))
  | '\\' :: '\x7b' :: rest =>
      if d.extended then none
      else some ((count? d rest).getD (.error .unmatchedBrace))
  | _ => none

/-- An expression with the repetitions behind it; at most `limit`. -/
def readRepetitions (d : Dialect) (inner : Expression) : Nat → Step Expression
  | 0 => return inner
  | limit + 1 => do
      match repetition? d (← get).rest with
      | none => return inner
      | some (.error fault) => throw fault
      | some (.ok (count, rest)) => do
          goOn rest
          readRepetitions d (.repeated inner count.least count.most) limit

/-! ## Expressions -/

/-- The characters that are part of words. -/
def wordSet : CharacterSet := CharacterSet.wordCharacters

/-- The expression of a letter after a backslash, if it has a meaning of its
own. -/
def special? (c : Char) : Option Expression :=
  match c with
  | 'w' => some (.one wordSet)
  | 'W' => some (.one (.complement wordSet))
  | 's' => some (.one CharacterSet.blanks)
  | 'S' => some (.one (.complement CharacterSet.blanks))
  | 'b' => some (.edge .wordEdge)
  | 'B' => some (.edge .noWordEdge)
  | '<' => some (.edge .wordStart)
  | '>' => some (.edge .wordEnd)
  | '\x60' => some (.edge .textStart)
  | '\'' => some (.edge .textEnd)
  | _ => none

/-- What begins at the front of a text. -/
inductive Mark where
  | ending
  | opening (rest : NarrowText)
  | closing (rest : NarrowText)
  | bar (rest : NarrowText)
  | other
  deriving DecidableEq, Repr

/-- What begins at the front of a text. -/
def mark (d : Dialect) (text : NarrowText) : Mark :=
  match text with
  | [] => .ending
  | '\\' :: c :: rest =>
      if d.extended then .other
      else if c = '(' then .opening rest
      else if c = ')' then .closing rest
      else if c = '|' then .bar rest
      else .other
  | c :: rest =>
      if !d.extended then .other
      else if c = '(' then .opening rest
      else if c = ')' then .closing rest
      else if c = '|' then .bar rest
      else .other

/-- The beginning of the text or of each line. -/
def startEdge (d : Dialect) : Expression :=
  .edge (if d.lines then .lineStart else .textStart)

/-- The end of the text or of each line. -/
def endEdge (d : Dialect) : Expression :=
  .edge (if d.lines then .lineEnd else .textEnd)

/-- A dollar sign stands at the end of a choice. -/
def endsHere (d : Dialect) (text : NarrowText) : Bool :=
  match mark d text with
  | .ending | .closing _ | .bar _ => true
  | _ => false

mutual

/-- Expressions of which one has to match.  The number of steps is limited, as
for all readers of expressions. -/
def readChoice (d : Dialect) : Nat → Step Expression
  | 0 => throw .countTooBig
  | limit + 1 => do
      let first ← readSequence d true limit
      match mark d (← get).rest with
      | .bar rest => do
          goOn rest
          return .choice first (← readChoice d limit)
      | _ => return first

/-- Expressions one after the other; `isStart` says that nothing was read
before them. -/
def readSequence (d : Dialect) (isStart : Bool) : Nat → Step Expression
  | 0 => throw .countTooBig
  | limit + 1 => do
      let source ← get
      match mark d source.rest with
      | .ending | .bar _ => return .empty
      | .closing _ =>
          if 0 < source.depth then return .empty
          else if d.extended then do
            goOn source.rest.tail
            let atom ← readRepetitions d (.one (.single ')')) source.rest.length
            return .sequence atom (← readSequence d false limit)
          else throw .unmatchedClosing
      | _ => do
          let (atom, anchors) ← readAtom d isStart limit
          let found ←
            if anchors && !d.extended then pure atom
            else readRepetitions d atom source.rest.length
          return .sequence found (← readSequence d (anchors && isStart) limit)

/-- One expression without repetitions, and whether it asks for the beginning
of a line. -/
def readAtom (d : Dialect) (isStart : Bool) : Nat → Step (Expression × Bool)
  | 0 => throw .countTooBig
  | limit + 1 => do
      let source ← get
      match mark d source.rest with
      | .opening rest => do
          let number := source.groups + 1
          set { source with rest, groups := number, depth := source.depth + 1 }
          let inner ← readChoice d limit
          match mark d (← get).rest with
          | .closing rest => do
              modify fun after =>
                { after with rest, depth := source.depth, closed := number :: after.closed }
              return (.group number inner, false)
          | _ => throw .unmatchedOpening
      | _ =>
          match source.rest with
          | '\\' :: c :: rest => do
              goOn rest
              match special? c with
              | some found => return (found, false)
              | none =>
                  if c.isDigit ∧ c ≠ '0' then
                    let number := c.toNat - '0'.toNat
                    if source.closed.contains number then return (.reference number, false)
                    else throw .invalidReference
                  else return (.one (.single c), false)
          | ['\\'] => throw .trailingBackslash
          | '[' :: rest => do
              goOn rest
              return (.one (← readBrackets d), false)
          | '.' :: rest => do
              goOn rest
              return (.one .all, false)
          | '^' :: rest => do
              goOn rest
              if d.extended || isStart then return (startEdge d, true)
              else return (.one (.single '^'), false)
          | '$' :: rest => do
              goOn rest
              if d.extended || endsHere d rest then return (endEdge d, false)
              else return (.one (.single '$'), false)
          | c :: rest => do
              if d.extended ∧ (c = '*' ∨ c = '+' ∨ c = '?') ∧ isStart = true then
                return (.empty, true)
              else do
                goOn rest
                return (.one (.single c), false)
          | [] => return (.empty, false)

end

/-- The expression that a text spells, and how many groups it has. -/
def read (d : Dialect) (text : NarrowText) : Except Fault (Expression × Nat) := do
  let (found, source) ← (readChoice d (4 * text.length + 8)).run { rest := text }
  match source.rest with
  | [] => return (found, source.groups)
  | _ => throw .unmatchedClosing

end Posix
end SyntaxCensus
