import SyntaxCensus.Host.Text.Narrow
import SyntaxCensus.Regex.CharacterSet

/-!
# Patterns

A pattern matches a whole text.  A star stands for any text, a question mark
for one character, brackets for one of a set, and all else for itself.

Main definitions:

- `Pattern.read`: the pattern that marked text spells.
- `Pattern.accepts`: a pattern matches a text.
- `Pattern.fits`: the same for a pattern that is spelled out.
- `Pattern.trimFront`, `Pattern.trimBack`: the part of a text that a pattern
  leaves.
-/

namespace SyntaxCensus

/-- A part of a pattern. -/
inductive PatternItem where
  | anyText
  | oneOf (set : CharacterSet)
  | exactly (c : Char)
  deriving DecidableEq, Repr

/-- A pattern: its parts in order. -/
abbrev Pattern := List PatternItem

/-- A character of a pattern that is still to be read, and whether it stands
between quotes. -/
abbrev Marked := Char × Bool

namespace Pattern

/-! ## Reading patterns -/

/-- The named set of characters in front, as `[:name:]` behind its first
bracket, and what follows it. -/
def namedSet? (text : List Marked) : Option (CharacterSet × List Marked) :=
  match text with
  | (':', false) :: rest =>
      let name := rest.takeWhile fun marked => marked.1 ≠ ':'
      match rest.dropWhile fun marked => marked.1 ≠ ':' with
      | (':', _) :: (']', _) :: after =>
          (CharacterSet.named? (String.ofList (name.map Prod.fst))).map fun set => (set, after)
      | _ => none
  | _ => none

/-- The characters of a range or of a single place, and what follows. -/
def readMember (c : Char) (rest : List Marked) : CharacterSet × List Marked :=
  match rest with
  | ('-', false) :: (']', false) :: _ => (.single c, rest)
  | ('-', false) :: ('\\', false) :: (high, _) :: after => (.range c.toNat high.toNat, after)
  | ('-', false) :: (high, _) :: after => (.range c.toNat high.toNat, after)
  | _ => (.single c, rest)

/-- The set between brackets up to the bracket that closes it, which may not be
the first character; at most `limit` members. -/
def readSet (first : Bool) (set : CharacterSet) :
    Nat → List Marked → Option (CharacterSet × List Marked)
  | 0, _ | _, [] => none
  | limit + 1, (c, quoted) :: rest =>
      if c = ']' ∧ !quoted ∧ !first then some (set, rest)
      else
        match (if c = '[' ∧ !quoted then namedSet? rest else none) with
        | some (named, after) => readSet false (.union set named) limit after
        | none =>
            match c, quoted, rest with
            | '\\', false, (d, _) :: more =>
                let (member, after) := readMember d more
                readSet false (.union set member) limit after
            | _, _, _ =>
                let (member, after) := readMember c rest
                readSet false (.union set member) limit after

/-- The pattern that marked text spells; a caret at the beginning of a set
stands for its complement if `caret` says so. -/
def read (caret : Bool) (text : List Marked) : Pattern :=
  match text with
  | [] => []
  | (c, true) :: rest => .exactly c :: read caret rest
  | ('*', false) :: rest => .anyText :: read caret rest
  | ('?', false) :: rest => .oneOf .all :: read caret rest
  | ('\\', false) :: (c, _) :: rest => .exactly c :: read caret rest
  | ('[', false) :: rest =>
      let (negated, inner) :=
        match rest with
        | ('!', false) :: more => (true, more)
        | ('^', false) :: more => if caret then (true, more) else (false, rest)
        | _ => (false, rest)
      match readSet true .empty (inner.length + 1) inner with
      | some (set, after) =>
          if after.length ≤ rest.length then
            .oneOf (if negated then .complement set else set) :: read caret after
          else .exactly '[' :: read caret rest
      | none => .exactly '[' :: read caret rest
  | (c, false) :: rest => .exactly c :: read caret rest
  termination_by text.length

/-- A pattern that can match more than one text. -/
def isOpen (pattern : Pattern) : Bool :=
  pattern.any fun item =>
    match item with
    | .exactly _ => false
    | _ => true

/-- A pattern that begins with a dot. -/
def beginsWithDot : Pattern → Bool
  | .exactly '.' :: _ => true
  | _ => false

/-! ## Matching -/

/-- A pattern matches a whole text. -/
def accepts (pattern : Pattern) (text : NarrowText) : Bool :=
  match pattern, text with
  | [], [] => true
  | [], _ :: _ => false
  | .anyText :: rest, [] => accepts rest []
  | .anyText :: rest, c :: others =>
      accepts rest (c :: others) || accepts (.anyText :: rest) others
  | .oneOf _ :: _, [] => false
  | .oneOf set :: rest, c :: others => set.contains c && accepts rest others
  | .exactly _ :: _, [] => false
  | .exactly wanted :: rest, c :: others => wanted = c && accepts rest others
  termination_by (pattern.length, text.length)

/-- The pattern that a text spells matches another text. -/
def fits (pattern text : NarrowText) : Bool :=
  accepts (read true (pattern.map fun c => (c, false))) text

/-- The first length from a list that gives a beginning which a pattern
matches. -/
def firstLength? (pattern : Pattern) (text : NarrowText) (lengths : List Nat) : Option Nat :=
  lengths.find? fun length => accepts pattern (text.take length)

/-- The text without the shortest or the longest beginning that a pattern
matches. -/
def trimFront (pattern : Pattern) (longest : Bool) (text : NarrowText) : NarrowText :=
  let lengths := List.range (text.length + 1)
  match firstLength? pattern text (if longest then lengths.reverse else lengths) with
  | some length => text.drop length
  | none => text

/-- The text without the shortest or the longest end that a pattern matches. -/
def trimBack (pattern : Pattern) (longest : Bool) (text : NarrowText) : NarrowText :=
  let starts := List.range (text.length + 1)
  match (if longest then starts else starts.reverse).find? fun start =>
      accepts pattern (text.drop start) with
  | some start => text.take start
  | none => text

end Pattern
end SyntaxCensus
