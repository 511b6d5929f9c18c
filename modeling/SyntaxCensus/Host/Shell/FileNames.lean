import SyntaxCensus.Files.Operations
import SyntaxCensus.Host.Process.Changes
import SyntaxCensus.Host.Shell.Fields

/-!
# Patterns for names of files

A field that is a pattern stands for the names of the files that it matches.
Names that begin with a dot have to be asked for with a dot, and slashes have
to be written out.

Main definitions:

- `Field.names`: the texts that a field stands for.
-/

namespace SyntaxCensus
namespace Shell

/-- The parts of marked text between slashes. -/
def markedParts : List Marked → List (List Marked)
  | [] => [[]]
  | (c, quoted) :: rest =>
      let parts := markedParts rest
      if c = '/' then [] :: parts
      else
        match parts with
        | [] => [[(c, quoted)]]
        | first :: others => ((c, quoted) :: first) :: others

/-- The text of a part without the backslashes that protect characters. -/
def literalPart : List Marked → NarrowText
  | [] => []
  | ('\\', false) :: (c, _) :: rest => c :: literalPart rest
  | (c, _) :: rest => c :: literalPart rest

/-- The names in a directory that a pattern matches. -/
def matchingNames (fs : FileSystem) (directory : NarrowText) (pattern : Pattern) :
    List NarrowText :=
  match fs.list (if directory.isEmpty then "." else NarrowText.toString directory) with
  | .error _ => []
  | .ok names =>
      let all := [['.'], ['.', '.']] ++ names.map NarrowText.ofString
      all.filter fun name =>
        (name.head? ≠ some '.' || pattern.beginsWithDot) && pattern.accepts name

/-- The paths that begin in a directory and go on as the parts of a pattern
say. -/
def matchingPaths (fs : FileSystem) (front : NarrowText) :
    List (List Marked) → List NarrowText
  | [] => []
  | [part] =>
      let pattern := Pattern.read false part
      if pattern.isOpen then
        (matchingNames fs front pattern).map fun name => front ++ name
      else
        let path := front ++ literalPart part
        match fs.findSelf (NarrowText.toString path) with
        | .ok _ => [path]
        | .error _ => []
  | part :: rest =>
      let pattern := Pattern.read false part
      if pattern.isOpen then
        (matchingNames fs front pattern).flatMap fun name =>
          if fs.isDirectory (NarrowText.toString (front ++ name)) then
            matchingPaths fs (front ++ name ++ ['/']) rest
          else []
      else matchingPaths fs (front ++ literalPart part ++ ['/']) rest

/-- Texts in ascending order. -/
def sortTexts (texts : List NarrowText) : List NarrowText :=
  texts.mergeSort fun a b => decide (String.ofList a ≤ String.ofList b)

/-- The texts that a field stands for: names of files if it is a pattern that
matches any, and else its own text. -/
def Field.names (fs : FileSystem) (field : Field) : List NarrowText :=
  if field.mayMatch then
    let parts := markedParts field.marked
    if parts.any fun part => (Pattern.read false part).isOpen then
      match sortTexts (matchingPaths fs [] parts) with
      | [] => [field.text]
      | found => found
    else [field.text]
  else [field.text]

end Shell
end SyntaxCensus
