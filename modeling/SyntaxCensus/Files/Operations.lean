import SyntaxCensus.Files.Walk

/-!
# Operations on files

Reading, listing, making directories and writing.  Apart from making several
directories at once, an operation fails with a fault or does all of its work.

Main definitions:

- `FileSystem.openPath`, `FileSystem.readFile`: the octets of a file.
- `FileSystem.list`: the names in a directory, in ascending order.
- `FileSystem.createDirectories`: a directory and those above it.
- `FileSystem.truncate`, `FileSystem.appendAt`: writing a file.
-/

namespace SyntaxCensus

/-- What opening a path for reading gives. -/
inductive Opened where
  | content (octets : List UInt8)
  | directory

namespace FileSystem

/-- Open a path for reading. -/
def openPath (fs : FileSystem) (path : String) : Except SystemFault Opened :=
  match fs.find path with
  | .error fault => .error fault
  | .ok (_, .file octets _) => .ok (.content octets)
  | .ok (_, _) => .ok .directory

/-- The octets of a file. -/
def readFile (fs : FileSystem) (path : String) : Except SystemFault (List UInt8) :=
  match fs.openPath path with
  | .error fault => .error fault
  | .ok (.content octets) => .ok octets
  | .ok .directory => .error .isDirectory

/-- The names in a directory, in ascending order. -/
def list (fs : FileSystem) (path : String) : Except SystemFault (List String) :=
  match fs.find path with
  | .error fault => .error fault
  | .ok (_, .directory entries) => .ok (entries.map Prod.fst)
  | .ok (_, _) => .error .notDirectory

/-- Make one directory at a free name. -/
def createDirectory (fs : FileSystem) (path : String) : Except SystemFault FileSystem :=
  match rejects? path with
  | some fault => .error fault
  | none =>
      match Path.names path with
      | [] => .error .alreadyExists
      | names =>
          match findParent fs.tree (origin fs.working path) names with
          | .error fault => .error fault
          | .ok (directory, last) =>
              if last = "." ∨ last = ".." then .error .alreadyExists
              else if maxName < last.utf8ByteSize then .error .nameTooLong
              else
                match fs.tree.at? (directory ++ [last]) with
                | some _ => .error .alreadyExists
                | none =>
                    .ok { fs with tree := fs.tree.put (directory ++ [last]) (.directory []) }

/-- Make a directory and those above it that are missing, on at most `depth`
levels. -/
def createLevels (fs : FileSystem) (path : String) :
    Nat → Except SystemFault Unit × FileSystem
  | 0 => (.error .notFound, fs)
  | depth + 1 =>
      if path.isEmpty then (.ok (), fs)
      else
        match fs.createDirectory path with
        | .ok made => (.ok (), made)
        | .error .notFound =>
            match Path.parent? path with
            | none => (.error .notFound, fs)
            | some parent =>
                match fs.createLevels parent depth with
                | (.error fault, changed) => (.error fault, changed)
                | (.ok (), changed) =>
                    match changed.createDirectory path with
                    | .ok made => (.ok (), made)
                    | .error fault =>
                        if changed.isDirectory path then (.ok (), changed)
                        else (.error fault, changed)
        | .error fault => if fs.isDirectory path then (.ok (), fs) else (.error fault, fs)

/-- Make a directory and those above it that are missing.  Directories made
before a fault stay.  A parent is shorter than its path, so there are no more
levels than characters. -/
def createDirectories (fs : FileSystem) (path : String) :
    Except SystemFault Unit × FileSystem :=
  fs.createLevels path (path.length + 1)

/-- The octets of the file at a location, none if nothing is there. -/
def contentAt (fs : FileSystem) (location : List String) : List UInt8 :=
  match fs.tree.at? location with
  | some (.file octets _) => octets
  | _ => []

/-- The file at a location may be started. -/
def isExecutableAt (fs : FileSystem) (location : List String) : Bool :=
  match fs.tree.at? location with
  | some (.file _ executable) => executable
  | _ => false

/-- Write octets to the file at a location; whether it may be started does not
change. -/
def writeAt (fs : FileSystem) (location : List String) (octets : List UInt8) : FileSystem :=
  { fs with tree := fs.tree.put location (.file octets (fs.isExecutableAt location)) }

/-- Open a path for writing and empty the file, or make it. -/
def truncate (fs : FileSystem) (path : String) :
    Except SystemFault (List String × FileSystem) :=
  match fs.findForWriting path with
  | .error fault => .error fault
  | .ok location => .ok (location, fs.writeAt location [])

/-- Write octets at the end of the file at a location. -/
def appendAt (fs : FileSystem) (location : List String) (octets : List UInt8) : FileSystem :=
  fs.writeAt location (fs.contentAt location ++ octets)

end FileSystem
end SyntaxCensus
