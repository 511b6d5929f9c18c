import SyntaxCensus.Files.Operations

/-!
# Changes to directories

Taking entries out of directories, moving them, and making links.

Main definitions:

- `FileSystem.findSelf`: the entry that a path names, even if it is a link.
- `FileSystem.removeFile`, `FileSystem.removeDirectory`: entries taken out.
- `FileSystem.move`: an entry under another path.
- `FileSystem.makeLink`: a link to a path.
-/

namespace SyntaxCensus

namespace Entry

/-- The tree without the entry at a location. -/
def remove (tree : Entry) (location : List String) : Entry :=
  match location, tree with
  | [], _ => tree
  | [name], .directory entries => .directory (entries.filter fun entry => entry.1 ≠ name)
  | name :: rest, .directory entries =>
      match Keyed.lookup name entries with
      | some inner =>
          .directory
            (Keyed.insertWith name (inner.remove rest) (fun _ => inner.remove rest) entries)
      | none => tree
  | _ :: _, other => other

/-- The entries of a directory. -/
def entries : Entry → List (String × Entry)
  | .directory entries => entries
  | _ => []

end Entry

namespace FileSystem

/-- Where a path leads if a link that is its last name is not followed. -/
def locateSelf (fs : FileSystem) (path : String) : Except SystemFault Destination :=
  match rejects? path with
  | some fault => .error fault
  | none => walk fs.tree (Path.endsInSlash path) maxLinks (origin fs.working path) (steps path)

/-- The entry that a path names, with its location, even if it is a link. -/
def findSelf (fs : FileSystem) (path : String) : Except SystemFault (List String × Entry) :=
  match fs.locateSelf path with
  | .error fault => .error fault
  | .ok (.present location entry) => .ok (location, entry)
  | .ok (.free _ _) => .error .notFound

/-- The tree without the entry at a location. -/
def without (fs : FileSystem) (location : List String) : FileSystem :=
  { fs with tree := fs.tree.remove location }

/-- The tree with an entry at a location. -/
def having (fs : FileSystem) (location : List String) (entry : Entry) : FileSystem :=
  { fs with tree := fs.tree.put location entry }

/-- Take out a file or a link. -/
def removeFile (fs : FileSystem) (path : String) : Except SystemFault FileSystem :=
  match fs.findSelf path with
  | .error fault => .error fault
  | .ok (_, .directory _) => .error .isDirectory
  | .ok (location, _) => .ok (fs.without location)

/-- Take out a directory that holds nothing. -/
def removeDirectory (fs : FileSystem) (path : String) : Except SystemFault FileSystem :=
  match fs.findSelf path with
  | .error fault => .error fault
  | .ok (location, .directory []) =>
      if (Path.names path).getLast? = some "." then .error .invalid else .ok (fs.without location)
  | .ok (_, .directory _) => .error .notEmpty
  | .ok (_, _) => .error .notDirectory

/-- Take out an entry with everything in it. -/
def removeAll (fs : FileSystem) (path : String) : Except SystemFault FileSystem :=
  match fs.findSelf path with
  | .error fault => .error fault
  | .ok (location, _) => .ok (fs.without location)

/-- A free place for a new entry, where the path may not lead to anything. -/
def freePlace (fs : FileSystem) (path : String) : Except SystemFault (List String) :=
  match fs.locateSelf path with
  | .error fault => .error fault
  | .ok (.present _ _) => .error .alreadyExists
  | .ok (.free directory name) =>
      if Path.endsInSlash path then .error .notFound else .ok (directory ++ [name])

/-- Make a link to a path. -/
def makeLink (fs : FileSystem) (target path : String) : Except SystemFault FileSystem :=
  if target.isEmpty then .error .notFound
  else
    match fs.freePlace path with
    | .error fault => .error fault
    | .ok location => .ok (fs.having location (.link target))

/-- Give an entry a second name. -/
def makeName (fs : FileSystem) (source path : String) : Except SystemFault FileSystem :=
  match fs.findSelf source with
  | .error fault => .error fault
  | .ok (_, entry) =>
      match fs.freePlace path with
      | .error fault => .error fault
      | .ok location => .ok (fs.having location entry)

/-- Whether an entry may take the place of another one. -/
def mayReplace : Entry → Entry → Except SystemFault Unit
  | .directory _, .directory [] => .ok ()
  | .directory _, .directory _ => .error .notEmpty
  | .directory _, _ => .error .notDirectory
  | _, .directory _ => .error .isDirectory
  | _, _ => .ok ()

/-- Move an entry to another path; what is there is replaced. -/
def move (fs : FileSystem) (source path : String) : Except SystemFault FileSystem :=
  match fs.findSelf source with
  | .error fault => .error fault
  | .ok (location, entry) =>
      match fs.locateSelf path with
      | .error fault => .error fault
      | .ok (.free directory name) =>
          if Path.endsInSlash path ∧ !entry.isDirectory then .error .notDirectory
          else if location.isPrefixOf (directory ++ [name]) then .error .invalid
          else .ok ((fs.without location).having (directory ++ [name]) entry)
      | .ok (.present place there) =>
          if place = location then .ok fs
          else if location.isPrefixOf place then .error .invalid
          else
            match mayReplace entry there with
            | .error fault => .error fault
            | .ok () => .ok (((fs.without location).without place).having place entry)

/-- Change whether a file may be started. -/
def setExecutable (fs : FileSystem) (location : List String) (executable : Bool) : FileSystem :=
  match fs.tree.at? location with
  | some (.file octets _) => fs.having location (.file octets executable)
  | _ => fs

end FileSystem
end SyntaxCensus
