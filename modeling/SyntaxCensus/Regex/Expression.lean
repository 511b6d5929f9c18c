import SyntaxCensus.Regex.CharacterSet

/-!
# Regular expressions

What an expression says about a text, apart from the notation in which it is
written.

Main definitions:

- `Expression`: the expressions.
- `Edge.holds`: a place of a text is where an expression wants it to be.
-/

namespace SyntaxCensus

/-- The places between characters that an expression can ask for. -/
inductive Edge where
  | textStart
  | textEnd
  | lineStart
  | lineEnd
  | wordEdge
  | noWordEdge
  | wordStart
  | wordEnd
  | beforeWord
  | afterWord
  deriving DecidableEq, Repr

/-- Regular expressions.  A repetition without a `most` has no upper bound;
groups are numbered from one, and a reference stands for what a group has
matched. -/
inductive Expression where
  | empty
  | one (set : CharacterSet)
  | edge (edge : Edge)
  | sequence (first second : Expression)
  | choice (first second : Expression)
  | repeated (inner : Expression) (least : Nat) (most : Option Nat)
  | group (number : Nat) (inner : Expression)
  | reference (number : Nat)
  deriving DecidableEq, Repr

namespace Expression

/-- Expressions one after the other. -/
def ofList : List Expression → Expression
  | [] => empty
  | [single] => single
  | first :: rest => sequence first (ofList rest)

/-- The expression that matches a text only. -/
def ofText (text : List Char) : Expression :=
  ofList (text.map fun c => one (.single c))

/-- The expression with both cases of every letter. -/
def anyCase : Expression → Expression
  | one set => one (.anyCase set)
  | sequence first second => sequence first.anyCase second.anyCase
  | choice first second => choice first.anyCase second.anyCase
  | repeated inner least most => repeated inner.anyCase least most
  | group number inner => group number inner.anyCase
  | other => other

/-- How many characters the longest unfolded form of an expression has at
least, where each repetition is written out as often as it has to occur. -/
def unfoldedSize : Expression → Nat
  | empty | edge _ | reference _ => 0
  | one _ => 1
  | sequence first second | choice first second => first.unfoldedSize + second.unfoldedSize
  | repeated inner least most => inner.unfoldedSize * max 1 (most.getD least)
  | group _ inner => inner.unfoldedSize

end Expression

namespace Edge

/-- A character of words. -/
def isWordCharacter (c : Char) : Bool :=
  c.isAlphanum || c = '_'

/-- The character at a place is one of a word. -/
def wordAt (text : Array Char) (place : Nat) : Bool :=
  (text[place]?).any isWordCharacter

/-- The character before a place is one of a word. -/
def wordBefore (text : Array Char) (place : Nat) : Bool :=
  match place with
  | 0 => false
  | before + 1 => wordAt text before

/-- A place of a text is where an edge wants it to be. -/
def holds (edge : Edge) (text : Array Char) (place : Nat) : Bool :=
  match edge with
  | textStart => place = 0
  | textEnd => place = text.size
  | lineStart => place = 0 || text[place - 1]? = some '\n'
  | lineEnd => place = text.size || text[place]? = some '\n'
  | wordEdge => wordBefore text place ≠ wordAt text place
  | noWordEdge => wordBefore text place = wordAt text place
  | wordStart => !wordBefore text place && wordAt text place
  | wordEnd => wordBefore text place && !wordAt text place
  | beforeWord => !wordBefore text place
  | afterWord => !wordAt text place

end Edge
end SyntaxCensus
