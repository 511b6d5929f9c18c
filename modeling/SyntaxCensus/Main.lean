import SyntaxCensus.Command.Program
import SyntaxCensus.Host.Launch

/-!
# The command line

The files below the working directory are read, the program runs on them, and
the files that it changed are written back.  So are those below the absolute
paths among the arguments.  A file that begins with the mark of a script may be
started.
-/

namespace SyntaxCensus
namespace CommandLine

/-- A file that begins with `#!` names its interpreter and may be started. -/
def isScript (octets : List UInt8) : Bool :=
  octets.take 2 = Utf8.encode "#!"

/-- The entry at a path, on at most `depth` levels; none if nothing is there
or it cannot be read. -/
def load (path : String) : Nat → IO (Option Entry)
  | 0 => return none
  | depth + 1 => do
      try
        let place ← IO.FS.realPath path
        if ← place.isDir then
          let mut tree : Entry := .directory []
          for item in ← place.readDir do
            if let some entry ← load item.path.toString depth then
              tree := tree.put [item.fileName] entry
          return some tree
        else
          let octets := (← IO.FS.readBinFile path).data.toList
          return some (.file octets (isScript octets))
      catch _ => return none

/-- How many levels of directories are read. -/
def maxDepth : Nat := 256

/-- The files that a run with arguments in a directory can see. -/
def loadFiles (directory : String) (arguments : List String) : IO FileSystem := do
  let mut tree := Installation.tree
  for path in directory :: arguments.filter Path.isAbsolute do
    if let some entry ← load path maxDepth then
      tree := tree.put (Path.names path) entry
  return ⟨tree, Path.names directory⟩

/-- Write what is new or different in an entry. -/
partial def save (path : String) (before : Option Entry) (after : Entry) : IO Unit := do
  match after with
  | .link _ => return
  | .file octets _ =>
      let old := before.bind fun
        | .file content _ => some content
        | _ => none
      if old ≠ some octets then
        IO.FS.writeBinFile path ⟨octets.toArray⟩
  | .directory entries =>
      if !before.any Entry.isDirectory then
        IO.FS.createDirAll path
      for (name, entry) in entries do
        save (path ++ "/" ++ name) (before.bind (·.child? name)) entry

/-- The variables of the environment that a run can see. -/
def loadEnvironment : IO Environment := do
  let mut environment : Environment := []
  for name in ["PATH", "SOLC", "SOLC_LEGACY", "RUST_LOG"] do
    if let some value ← IO.getEnv name then
      environment := (name, value) :: environment
  return environment

/-- A number of milliseconds in seconds with two places. -/
def secondsText (milliseconds : Nat) : String :=
  let hundredths := (milliseconds + 5) / 10
  let places := toString (hundredths % 100)
  toString (hundredths / 100) ++ "." ++ (if places.length < 2 then "0" ++ places else places)

end CommandLine
end SyntaxCensus

open SyntaxCensus in
/-- Run the program on the files of the working directory.  It runs once to
learn how long that takes, and once to tell so. -/
def main (arguments : List String) : IO UInt32 := do
  let directory := (← IO.currentDir).toString
  let environment ← CommandLine.loadEnvironment
  let files ← CommandLine.loadFiles directory arguments
  let run (seconds : String) : Answer × FileSystem :=
    Program.run (Host.launcher environment) environment arguments seconds files
  let start ← IO.monoMsNow
  let (trial, _) ← IO.lazyPure fun _ => run (CommandLine.secondsText 0)
  let finish ← IO.monoMsNow
  let (answer, after) :=
    if trial.status = 0 then run (CommandLine.secondsText (finish - start))
    else run (CommandLine.secondsText 0)
  CommandLine.save "" (some files.tree) after.tree
  IO.print answer.output
  IO.eprint answer.diagnostics
  return UInt32.ofNat answer.status
