import SyntaxCensus.Files.Fault
import SyntaxCensus.Files.Path
import SyntaxCensus.Files.Tree

/-!
# From paths to locations

A path leads through directories, following links, to an entry or to a place
where nothing is yet.  At most forty links are followed.

Main definitions:

- `FileSystem`: a tree and the directory where relative paths begin.
- `FileSystem.find`: the entry that a path leads to.
- `FileSystem.findForWriting`: where writing to a path goes.
-/

namespace SyntaxCensus

/-- A tree of files and the location of the working directory.  Everyone may read and
write all of it, and no device fails: an operation meets only those faults that the
tree and the path explain.  In particular a directory that is found has a list of
names, so there is no fault at a single one of its entries. -/
structure FileSystem where
  tree : Entry
  working : List String

/-- Where a path leads: to an entry, or to a name that is free in a
directory. -/
inductive Destination where
  | present (location : List String) (entry : Entry)
  | free (directory : List String) (name : String)

namespace FileSystem

/-- The longest name, in octets. -/
def maxName : Nat := 255

/-- The longest path, in octets. -/
def maxPath : Nat := 4095

/-- How many links are followed on the way. -/
def maxLinks : Nat := 40

/-- The names to walk through; a path that ends in a slash must lead to a
directory, as the path with a dot after the slash does. -/
def steps (path : String) : List String :=
  if Path.endsInSlash path then Path.names path ++ ["."] else Path.names path

/-- The location where a path begins, seen from a directory. -/
def origin (directory : List String) (path : String) : List String :=
  if Path.isAbsolute path then [] else directory

/-- Walk through names from a directory.  A link that is the last name is
followed only if `follow` says so. -/
def walk (tree : Entry) (follow : Bool) (links : Nat) (location : List String)
    (names : List String) : Except SystemFault Destination :=
  match names with
  | [] =>
      match tree.at? location with
      | some entry => .ok (.present location entry)
      | none => .error .notFound
  | name :: rest =>
      if maxName < name.utf8ByteSize then .error .nameTooLong
      else if name = "." then walk tree follow links location rest
      else if name = ".." then walk tree follow links location.dropLast rest
      else
        match tree.at? (location ++ [name]) with
        | none => if rest.isEmpty then .ok (.free location name) else .error .notFound
        | some (.directory _) => walk tree follow links (location ++ [name]) rest
        | some (.file content executable) =>
            if rest.isEmpty then .ok (.present (location ++ [name]) (.file content executable))
            else .error .notDirectory
        | some (.link target) =>
            if rest.isEmpty && !follow then .ok (.present (location ++ [name]) (.link target))
            else
              match links with
              | 0 => .error .tooManyLinks
              | left + 1 =>
                  if target.isEmpty then .error .notFound
                  else walk tree follow left (origin location target) (steps target ++ rest)
  termination_by (links, names.length)

/-- A path that the system does not take at all. -/
def rejects? (path : String) : Option SystemFault :=
  if path.toList.contains (Char.ofNat 0) then some .zeroInPath
  else if path.isEmpty then some .notFound
  else if maxPath < path.utf8ByteSize then some .nameTooLong
  else none

/-- Where a path leads. -/
def locate (fs : FileSystem) (path : String) : Except SystemFault Destination :=
  match rejects? path with
  | some fault => .error fault
  | none => walk fs.tree true maxLinks (origin fs.working path) (steps path)

/-- The entry that a path leads to, with its location. -/
def find (fs : FileSystem) (path : String) : Except SystemFault (List String × Entry) :=
  match fs.locate path with
  | .error fault => .error fault
  | .ok (.present location entry) => .ok (location, entry)
  | .ok (.free _ _) => .error .notFound

/-- Whether a path leads to an entry. -/
def exists? (fs : FileSystem) (path : String) : Bool :=
  match fs.find path with
  | .ok _ => true
  | .error _ => false

/-- Whether a path leads to a directory. -/
def isDirectory (fs : FileSystem) (path : String) : Bool :=
  match fs.find path with
  | .ok (_, entry) => entry.isDirectory
  | .error _ => false

/-- Whether a path leads to a file. -/
def isFile (fs : FileSystem) (path : String) : Bool :=
  match fs.find path with
  | .ok (_, entry) => entry.isFile
  | .error _ => false

/-- The directory that names lead to, and the last name in it. -/
def findParent (tree : Entry) (location : List String) (names : List String) :
    Except SystemFault (List String × String) :=
  match names.getLast? with
  | none => .error .isDirectory
  | some last =>
      match walk tree true maxLinks location (names.dropLast ++ ["."]) with
      | .error fault => .error fault
      | .ok (.present directory _) => .ok (directory, last)
      | .ok (.free _ _) => .error .notFound

/-- Where writing to a path goes, walking through its names from a directory:
to a file, or to a free name.  A link that is the last name is followed to where
it leads; `slash` tells that the path ends in one, so that it can only be a
directory. -/
def walkForWriting (tree : Entry) (links : Nat) (location : List String) (names : List String)
    (slash : Bool) : Except SystemFault (List String) :=
  match names with
  | [] => .error .isDirectory
  | name :: rest =>
      if rest.isEmpty && slash then .error .isDirectory
      else if maxName < name.utf8ByteSize then .error .nameTooLong
      else if name = "." then walkForWriting tree links location rest slash
      else if name = ".." then walkForWriting tree links location.dropLast rest slash
      else
        match tree.at? (location ++ [name]) with
        | none =>
            if rest.isEmpty && (tree.at? location).any Entry.isDirectory then
              .ok (location ++ [name])
            else .error .notFound
        | some (.directory _) => walkForWriting tree links (location ++ [name]) rest slash
        | some (.file _ _) =>
            if rest.isEmpty then .ok (location ++ [name]) else .error .notDirectory
        | some (.link target) =>
            match links with
            | 0 => .error .tooManyLinks
            | left + 1 =>
                if target.isEmpty then .error .notFound
                else if rest.isEmpty then
                  walkForWriting tree left (origin location target) (Path.names target)
                    (Path.endsInSlash target)
                else walkForWriting tree left (origin location target) (steps target ++ rest) slash
  termination_by (links, names.length)

/-- The location of the file that writing to a path makes or replaces. -/
def findForWriting (fs : FileSystem) (path : String) : Except SystemFault (List String) :=
  match rejects? path with
  | some fault => .error fault
  | none =>
      walkForWriting fs.tree maxLinks (origin fs.working path) (Path.names path)
        (Path.endsInSlash path)

end FileSystem
end SyntaxCensus
