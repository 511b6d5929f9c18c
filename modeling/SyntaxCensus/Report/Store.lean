import SyntaxCensus.Files.Operations
import SyntaxCensus.Json.Reader
import SyntaxCensus.Report.Error
import SyntaxCensus.Text.Utf8

/-!
# Saving and loading reports

A report is saved as its text and a line feed.  The path is checked before
anything is changed, directories that are missing are made, and an old file is
replaced.

Main definitions:

- `Report.save`: write a report to a path.
- `Report.openFrom`: read a report from a path.
-/

namespace SyntaxCensus
namespace Report

/-- The octets of a saved report. -/
def octets (report : Report) : List UInt8 :=
  Utf8.encode (report.text ++ "\n")

/-- A path that cannot take a report, whatever is made first. -/
def pathFault? (fs : FileSystem) (path : String) : Option PathFault :=
  if path.isEmpty then some .empty
  else if fs.isDirectory path then some (.directory path)
  else none

/-- Make the parent of a path if the path has one that does not exist. -/
def prepareParent (path : String) : Action FileSystem ReportError Unit := do
  let fs := (← get).state
  match Path.parent? path with
  | none => return
  | some parent =>
      if parent.isEmpty || fs.exists? parent then return
      Action.log .debug .reportFile s!"Creating parent directories: {parent}"
      Action.onState fun fs =>
        match fs.createDirectories parent with
        | (.ok (), made) => (.ok (), made)
        | (.error cause, changed) => (.error (.badPath (.parentMissing parent cause)), changed)

/-- Replace the file that a path leads to, or make it. -/
def replaceFile (path : String) (octets : List UInt8) : Action FileSystem ReportError Unit :=
  Action.onState fun fs =>
    match fs.truncate path with
    | .error cause => (.error (.unopened cause), fs)
    | .ok (location, emptied) => (.ok (), emptied.appendAt location octets)

/-- The number of octets in the file that a path leads to. -/
def fileSize (fs : FileSystem) (path : String) : Nat :=
  match fs.readFile path with
  | .ok octets => octets.length
  | .error _ => 0

/-- Write a report to a path. -/
def save (report : Report) (path : String) : Action FileSystem ReportError Unit := do
  Action.log .info .reportFile s!"Writing report to: {path}"
  match pathFault? (← get).state path with
  | some fault => throw (.badPath fault)
  | none => do
      prepareParent path
      replaceFile path report.octets
      Action.log .info .reportFile
        s!"Report written successfully ({fileSize (← get).state path} bytes)"

/-- The document in the file that a path leads to. -/
def fetch (fs : FileSystem) (path : String) : Except ReportError Json :=
  match fs.openPath path with
  | .error cause => .error (.unopened cause)
  | .ok .directory => .error (.unfetched .isDirectory)
  | .ok (.content octets) => (Json.parseFile octets).mapError .undecoded

/-- Read a report from a path. -/
def openFrom (path : String) : Action FileSystem ReportError Report := do
  Action.log .debug .reportFile s!"Reading report from: {path}"
  let document ← Action.ofExcept (fetch (← get).state path)
  load document

end Report
end SyntaxCensus
