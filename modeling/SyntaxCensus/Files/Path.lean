import SyntaxCensus.Text.Lines

/-!
# Paths

A path is a text of names between slashes.  What can be told from the text
alone is told here: the names to walk through, the parent, the extension of a
name.

Main definitions:

- `Path.pieces`: the texts between the slashes.
- `Path.parent?`: the path without its last name.
- `Path.extension?`: what follows the last dot of a name.
-/

namespace SyntaxCensus
namespace Path

/-- The texts between the slashes of a path. -/
def pieces (path : String) : List String :=
  Text.parts '/' path

/-- Pieces with slashes between them. -/
def ofPieces (pieces : List String) : String :=
  "/".intercalate pieces

/-- The path begins at the root. -/
def isAbsolute (path : String) : Bool :=
  path.toList.head? = some '/'

/-- The path ends in a slash, so it can only be a directory. -/
def endsInSlash (path : String) : Bool :=
  path.toList.getLast? = some '/'

/-- The names to walk through. -/
def names (path : String) : List String :=
  (pieces path).filter fun piece => !piece.isEmpty

/-- Pieces without those at the end that lead nowhere. -/
def trimEnd (pieces : List String) : List String :=
  (pieces.reverse.dropWhile fun piece => piece.isEmpty || piece = ".").reverse

/-- The path without its last name; none for the root and the empty path.  A
dot counts as a name only at the beginning. -/
def parent? (path : String) : Option String :=
  match pieces path with
  | "" :: second :: others =>
      match trimEnd (second :: others) with
      | [] => none
      | body => some ("/" ++ ofPieces (trimEnd body.dropLast))
  | "." :: others =>
      match trimEnd others with
      | [] => some ""
      | body => some (ofPieces ("." :: trimEnd body.dropLast))
  | all =>
      match trimEnd all with
      | [] => none
      | body => some (ofPieces (trimEnd body.dropLast))

/-- A name inside a directory. -/
def join (directory name : String) : String :=
  if isAbsolute name || directory.isEmpty then name
  else if endsInSlash directory then directory ++ name
  else directory ++ "/" ++ name

/-- What follows the last dot of a name, unless no dot is in it or the only
one is its first character. -/
def extension? (name : String) : Option String :=
  let reversed := name.toList.reverse
  match reversed.dropWhile (· ≠ '.') with
  | [] | [_] => none
  | _ :: _ => some (String.ofList (reversed.takeWhile (· ≠ '.')).reverse)

end Path
end SyntaxCensus
