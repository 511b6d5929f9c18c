/-!
# Sets of characters

A set of characters is built from ranges of code points by union, intersection
and complement.

Main definitions:

- `CharacterSet.contains`: a character is in a set.
- `CharacterSet.named?`: the sets that have a name, such as `alpha`.
-/

namespace SyntaxCensus

/-- A set of characters; `anyCase` adds the other case of each ASCII letter. -/
inductive CharacterSet where
  | empty
  | range (low high : Nat)
  | union (first second : CharacterSet)
  | intersection (first second : CharacterSet)
  | complement (set : CharacterSet)
  | anyCase (set : CharacterSet)
  deriving DecidableEq, Repr

namespace CharacterSet

/-- The other case of an ASCII letter; all else is left as it is. -/
def otherCase (c : Char) : Char :=
  if c.isUpper then c.toLower else c.toUpper

/-- A character is in a set. -/
def contains : CharacterSet → Char → Bool
  | empty, _ => false
  | range low high, c => decide (low ≤ c.toNat) && decide (c.toNat ≤ high)
  | union first second, c => first.contains c || second.contains c
  | intersection first second, c => first.contains c && second.contains c
  | complement set, c => !set.contains c
  | anyCase set, c => set.contains c || set.contains (otherCase c)

/-- The set of one character. -/
def single (c : Char) : CharacterSet :=
  range c.toNat c.toNat

/-- The characters of one set that are not in another. -/
def difference (first second : CharacterSet) : CharacterSet :=
  intersection first (complement second)

/-- The characters in exactly one of two sets. -/
def symmetricDifference (first second : CharacterSet) : CharacterSet :=
  union (difference first second) (difference second first)

/-- The union of sets. -/
def ofList (sets : List CharacterSet) : CharacterSet :=
  sets.foldr union empty

/-- The set of the characters of a text. -/
def ofText (text : List Char) : CharacterSet :=
  ofList (text.map single)

/-- Every character. -/
def all : CharacterSet :=
  complement empty

/-- Every character but the line feed. -/
def notLineFeed : CharacterSet :=
  complement (single '\n')

/-- The ASCII digits. -/
def digits : CharacterSet :=
  range 0x30 0x39

/-- The ASCII letters. -/
def letters : CharacterSet :=
  union (range 0x41 0x5A) (range 0x61 0x7A)

/-- ASCII letters, digits and the underscore. -/
def wordCharacters : CharacterSet :=
  union (union letters digits) (single '_')

/-- ASCII blanks and the marks that end lines and pages. -/
def blanks : CharacterSet :=
  union (single ' ') (range 0x09 0x0D)

/-- The ASCII characters with a name. -/
def named? : String → Option CharacterSet
  | "alnum" => some (union letters digits)
  | "alpha" => some letters
  | "ascii" => some (range 0 0x7F)
  | "blank" => some (ofText [' ', '\t'])
  | "cntrl" => some (union (range 0 0x1F) (single '\x7f'))
  | "digit" => some digits
  | "graph" => some (range 0x21 0x7E)
  | "lower" => some (range 0x61 0x7A)
  | "print" => some (range 0x20 0x7E)
  | "punct" => some (difference (range 0x21 0x7E) (union letters digits))
  | "space" => some blanks
  | "upper" => some (range 0x41 0x5A)
  | "word" => some wordCharacters
  | "xdigit" => some (union digits (union (range 0x41 0x46) (range 0x61 0x66)))
  | _ => none

end CharacterSet
end SyntaxCensus
