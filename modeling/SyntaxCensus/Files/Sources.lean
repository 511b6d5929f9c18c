import SyntaxCensus.Files.Operations
import SyntaxCensus.Journal.Action
import SyntaxCensus.Text.Utf8

/-!
# Source files of a directory

The sources are the files of a directory, links followed, that have the
extension asked for, in ascending order of their names.

Main definitions:

- `Sources.list`: the names of the sources.
- `Sources.read`: the text of one source.
-/

namespace SyntaxCensus

/-- Why the sources of a directory could not be listed or read.  There is no error for
a single entry of a directory: a file system has no fault that could be its cause. -/
inductive SourceError where
  | unlisted (directory : String) (cause : SystemFault)
  | unread (path : String) (cause : SystemFault)
  deriving DecidableEq, Repr

/-- What an error says, the outermost message first. -/
def SourceError.chain : SourceError → List String
  | .unlisted directory cause => ["Failed to read source directory " ++ directory, cause.message]
  | .unread path cause => ["Failed to read " ++ path, cause.message]

namespace Sources

/-- A name has the extension asked for, if one is. -/
def hasExtension (filter : Option String) (name : String) : Bool :=
  match filter with
  | none => true
  | some wanted => decide (Path.extension? name = some wanted)

/-- The names of a directory's files with the extension asked for; names that
are skipped for their extension are told. -/
def select (fs : FileSystem) (directory : String) (filter : Option String) :
    List String → Action FileSystem SourceError (List String)
  | [] => return []
  | name :: rest => do
      let path := Path.join directory name
      if fs.isFile path then
        if hasExtension filter name then
          return name :: (← select fs directory filter rest)
        else
          Action.log .debug .corpus s!"Skipping {path}"
          select fs directory filter rest
      else select fs directory filter rest

/-- The names of the sources in a directory, in ascending order. -/
def list (directory : String) (filter : Option String) :
    Action FileSystem SourceError (List String) := do
  let fs := (← get).state
  match fs.list directory with
  | .error cause => throw (.unlisted directory cause)
  | .ok names => return (← select fs directory filter names).mergeSort fun a b => !decide (b < a)

/-- The text of one source in a directory. -/
def read (directory name : String) : Action FileSystem SourceError String := do
  let fs := (← get).state
  let path := Path.join directory name
  match fs.readFile path with
  | .error cause => throw (.unread path cause)
  | .ok octets =>
      match Utf8.decode? octets with
      | none => throw (.unread path .notText)
      | some text => return text

end Sources
end SyntaxCensus
