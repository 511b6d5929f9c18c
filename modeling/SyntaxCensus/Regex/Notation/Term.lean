import SyntaxCensus.Regex.CharacterSet
import SyntaxCensus.Regex.Notation.Fault

/-!
# Terms

A text that spells a regular expression, taken apart.  Terms keep the parts of
the text that a fault of their meaning would be about.

Main definitions:

- `Term`: the parts of an expression.
- `ClassTerm`: the parts of a class of characters.
-/

namespace SyntaxCensus
namespace Regex

/-- The classes that are spelled with one letter. -/
inductive LetterClass where
  | digit
  | space
  | word
  deriving DecidableEq, Repr

/-- The settings that a text can change for what follows. -/
inductive Flag where
  | anyCase
  | lineEdges
  | dotMatchesLineFeed
  | lazy
  | unicode
  | carriageReturns
  | spaced
  deriving DecidableEq, Repr

/-- A setting that is turned on or off. -/
structure FlagChange where
  flag : Flag
  on : Bool
  deriving DecidableEq, Repr

/-- How two classes are put together. -/
inductive ClassOperation where
  | intersection
  | difference
  | symmetricDifference
  deriving DecidableEq, Repr

/-- The parts of a class of characters.  `byte` is set for a character that is
spelled by two hexadecimal digits. -/
inductive ClassTerm where
  | empty
  | literal (span : Span) (c : Char) (byte : Bool)
  | range (span : Span) (low high : Char)
  | named (span : Span) (negated : Bool) (set : CharacterSet)
  | letter (span : Span) (negated : Bool) (kind : LetterClass)
  | property (span : Span) (isCategory : Bool)
  | bracketed (span : Span) (negated : Bool) (inner : ClassTerm)
  | union (first second : ClassTerm)
  | operation (operation : ClassOperation) (first second : ClassTerm)
  deriving DecidableEq, Repr

/-- The places that a term can ask for. -/
inductive EdgeTerm where
  | lineStart
  | lineEnd
  | textStart
  | textEnd
  | wordEdge
  | noWordEdge
  | wordStart
  | wordEnd
  | beforeWord
  | afterWord
  deriving DecidableEq, Repr

/-- The parts of an expression. -/
inductive Term where
  | empty
  | flags (changes : List FlagChange)
  | literal (span : Span) (c : Char) (byte : Bool)
  | dot (span : Span)
  | edge (edge : EdgeTerm)
  | characters (set : ClassTerm)
  | repetition (inner : Term) (least : Nat) (most : Option Nat)
  | group (changes : List FlagChange) (inner : Term)
  | choice (first second : Term)
  | sequence (first second : Term)
  deriving DecidableEq, Repr

/-- Terms one after the other, given in reverse. -/
def Term.ofReversed : List Term → Term
  | [] => .empty
  | [single] => single
  | last :: rest => .sequence (ofReversed rest) last

end Regex
end SyntaxCensus
