import SyntaxCensus.Host.Tools.Editing.Cycle
import SyntaxCensus.Host.Tools.Editing.Reader
import SyntaxCensus.Host.Tools.Entries

/-!
# Editing texts

The tool that runs scripts on its input or on files, one after the other or
each for itself.

Main definitions:

- `Tools.sed`: the tool.
-/

namespace SyntaxCensus
namespace Tools

open Editing

/-- The parts of a script that options name. -/
def scriptTexts (tool : NarrowText) (number : Nat) :
    List (String × NarrowText) → Work (List ScriptText)
  | [] => return []
  | (key, value) :: rest => do
      if key = "e" then
        let text : ScriptText :=
          ⟨"-e expression #".toList ++ Numeral.ofNat number, false, value⟩
        return text :: (← scriptTexts tool (number + 1) rest)
      else if key = "f" then
        match ← Work.readNamed value with
        | .error fault =>
            Work.fail tool 4 ("couldn't open file ".toList ++ value ++ ": ".toList ++
              fault.description.toList)
        | .ok text => do
            let text := if text.getLast? = some '\n' then text.dropLast else text
            return ⟨value, true, text⟩ :: (← scriptTexts tool number rest)
      else scriptTexts tool number rest

/-- The texts of files with their names.  One that cannot be read is complained
about; a directory ends the reading unless files are edited in place. -/
def editedTexts (tool : NarrowText) (inPlace : Bool) :
    List NarrowText → Work (List (NarrowText × NarrowText) × Nat)
  | [] => return ([], 0)
  | name :: rest => do
      let text ← if inPlace then pure ((← get).readFile name) else Work.readNamed name
      match text with
      | .ok text => do
          let (others, status) ← editedTexts tool inPlace rest
          return ((name, text) :: others, status)
      | .error .isDirectory =>
          if inPlace then
            Work.complain tool ("couldn't edit ".toList ++ name ++ ": not a regular file".toList)
            let (others, _) ← editedTexts tool inPlace rest
            return (others, 4)
          else
            Work.complain tool ("read error on ".toList ++ name ++ ": Is a directory".toList)
            return ([], 4)
      | .error fault => do
          Work.complain tool ("can't read ".toList ++ name ++ ": ".toList ++
            fault.description.toList)
          let (others, status) ← editedTexts tool inPlace rest
          return (others, max 2 status)

/-- Write the files that a script wrote to. -/
def writeTargets (editor : Editor) : Work Unit := do
  for (name, channel) in editor.files do
    if name = "/dev/stderr".toList then
      let _ ← Work.write? 2 channel.text
    else
      match (← get).opened .replace name with
      | .ok (number, s) =>
          set (s.writeTo number ((s.streams[number]?).getD default) channel.text).2
      | .error _ => pure ()

/-- Put the edited text in the place of a file, of which a copy may be kept. -/
def replaceFile (name suffix text : NarrowText) : Work Unit := do
  let fs := (← get).files
  match fs.find (NarrowText.toString name) with
  | .ok (location, .file octets executable) => do
      if !suffix.isEmpty then
        let kept :=
          if suffix.contains '*' then
            suffix.flatMap fun c => if c = '*' then lastName name else [c]
          else name ++ suffix
        match fs.findForWriting (NarrowText.toString kept) with
        | .ok place => setFiles (fs.having place (.file octets executable))
        | .error _ => pure ()
      setFiles ((← get).files.writeAt location (NarrowText.toOctets text))
  | _ => return

/-- Run a script on texts. -/
def sed : Tool := fun _ tool arguments => do
  let found ←
    match findOptions
      [option 'n' "quiet", long "silent", valued 'e' "expression", valued 'f' "file",
        option 'E' "regexp-extended", flag 'r', ⟨"i", some 'i', some "in-place", .perhaps⟩,
        valued 'l' "line-length", option 's' "separate", option 'u' "unbuffered",
        option 'z' "null-data", long "posix", long "debug", long "sandbox",
        long "follow-symlinks", option 'b' "binary"] true arguments with
    | .ok found => pure found
    | .error problem => do
        Work.complain tool problem
        usage
        Work.exit 1
  let (scripts, names) ←
    match found.has "e" || found.has "f", found.operands with
    | true, names => pure (found.options, names)
    | false, script :: names => pure ([("e", script)], names)
    | false, [] => do
        usage
        Work.exit 1
  let texts ← scriptTexts tool 1 scripts
  let isFull := found.has "E" || found.has "r"
  let script ←
    match readScript isFull (found.has "n" || found.has "silent") texts with
    | .ok script => pure script
    | .error (.text message) => Work.fail tool 1 message
    | .error (.label message) => Work.fail tool 4 message
  let inPlace := found.has "i"
  let mark := if found.has "z" then Char.ofNat 0 else '\n'
  let (texts, status) ← editedTexts tool inPlace (Work.orInput names)
  let s ← get
  let readFile (name : NarrowText) : NarrowText :=
    match s.readFile name with
    | .ok text => text
    | .error _ => []
  let width := ((found.value? "l").bind Numeral.natural?).getD 70
  let setting : Setting := { script, readFile, mark, width := if width = 1 then 0 else width }
  let targets := script.targets.eraseDups.filter fun name => name ≠ "/dev/stdout".toList
  let fresh (coming : List InputLine) (files : List (NarrowText × Channel)) : Editor :=
    { coming, ranges := firstRanges script, files }
  let noFiles := targets.map fun name => (name, ({} : Channel))
  if inPlace || found.has "s" then
    let mut files := noFiles
    let mut output : Channel := {}
    let mut result := status
    for (name, text) in texts do
      let editor :=
        { fresh (inputLines mark name text) files with
          output := if inPlace then {} else output }
      let (after, outcome) := Editing.run setting editor
      files := after.files
      if inPlace then replaceFile name ((found.value? "i").getD []) after.output.text
      else output := after.output
      match outcome with
      | .finished 0 => pure ()
      | .finished quit => result := quit
      | .fault problem => do
          Work.print tool output.text
          Work.fail tool 1 ("-e expression #1, char 0: ".toList ++ problem)
    Work.print tool output.text
    writeTargets (fresh [] files)
    return result
  else
    let (after, outcome) :=
      let lines := texts.flatMap fun (name, text) => inputLines mark name text
      Editing.run setting (fresh lines noFiles)
    Work.print tool after.output.text
    writeTargets after
    match outcome with
    | .finished 0 => return status
    | .finished quit => return quit
    | .fault problem => Work.fail tool 1 ("-e expression #1, char 0: ".toList ++ problem)
where
  /-- Tell how the tool is used. -/
  usage : Work Unit :=
    Work.printDiagnostic
      "Usage: sed [OPTION]... \x7bscript-only-if-no-other-script\x7d [input-file]...".toList

end Tools
end SyntaxCensus
