import SyntaxCensus.Keyed

/-!
# Trees of files

A directory binds names to entries, which are files with their octets, further
directories, or links to a path.  An entry in a tree is found by its location,
the names that lead to it.

Main definitions:

- `Entry.at?`: the entry at a location.
- `Entry.put`: the tree with another entry at a location.
- `Entry.regularFiles`: all files with their locations.
-/

namespace SyntaxCensus

/-- An entry of a directory. -/
inductive Entry where
  | file (content : List UInt8) (executable : Bool)
  | directory (entries : List (String × Entry))
  | link (target : String)
  deriving Inhabited

namespace Entry

/-- A directory. -/
def isDirectory : Entry → Bool
  | .directory _ => true
  | _ => false

/-- A file. -/
def isFile : Entry → Bool
  | .file _ _ => true
  | _ => false

/-- The entry of a directory under a name. -/
def child? (name : String) : Entry → Option Entry
  | .directory entries => Keyed.lookup name entries
  | _ => none

/-- The entry at a location. -/
def at? (tree : Entry) : List String → Option Entry
  | [] => some tree
  | name :: rest => (tree.child? name).bind fun entry => entry.at? rest

/-- The tree with another entry at a location.  Directories on the way are
made if nothing is there; where something else is, nothing changes. -/
def put (tree : Entry) (location : List String) (entry : Entry) : Entry :=
  match location, tree with
  | [], _ => entry
  | name :: rest, .directory entries =>
      let inner := ((Keyed.lookup name entries).getD (.directory [])).put rest entry
      .directory (Keyed.insertWith name inner (fun _ => inner) entries)
  | _ :: _, other => other

mutual

/-- The files of a tree with their locations; links are not followed. -/
def regularFiles : Entry → List (List String × List UInt8)
  | .file content _ => [([], content)]
  | .directory entries => regularFilesIn entries
  | .link _ => []

/-- The files in the entries of a directory. -/
def regularFilesIn : List (String × Entry) → List (List String × List UInt8)
  | [] => []
  | (name, entry) :: rest =>
      entry.regularFiles.map (fun file => (name :: file.1, file.2)) ++ regularFilesIn rest

end

end Entry
end SyntaxCensus
