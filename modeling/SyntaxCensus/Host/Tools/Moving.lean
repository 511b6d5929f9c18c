import SyntaxCensus.Host.Tools.Entries

/-!
# Copying and moving

Tools that make further copies of files, or give them other names.

Main definitions:

- `Tools.destinations`: where sources are copied or moved to.
- `Tools.copyEntry`: a copy of a file or of a directory.
- `Tools.cp`, `Tools.mv`: the tools.
-/

namespace SyntaxCensus
namespace Tools

/-! ## Places -/

/-- The sources of a tool, each with the path that it is copied or moved to. -/
def destinations (tool : NarrowText) (found : Found) :
    Work (List (NarrowText × NarrowText)) := do
  let inside (directory : NarrowText) (sources : List NarrowText) :
      List (NarrowText × NarrowText) :=
    sources.map fun source => (source, inDirectory directory (lastName source))
  let leads (words : String) (path : NarrowText) : Work Unit := do
    let complain (fault : SystemFault) : Work Unit :=
      Work.fail tool 1 (words.toList ++ ' ' :: Work.quotedName path ++ ": ".toList ++
        fault.description.toList)
    match (← get).files.find (NarrowText.toString path) with
    | .ok (_, .directory _) => return
    | .ok _ => complain .notDirectory
    | .error fault => complain fault
  match found.operands, found.value? "t" with
  | [], _ => misuse tool 1 "missing file operand".toList
  | sources, some directory => do
      leads "target directory" directory
      return inside directory sources
  | [source], none =>
      misuse tool 1 ("missing destination file operand after ".toList ++ Work.quoted source)
  | [source, target], none => do
      if !found.has "T" && (← get).files.isDirectory (NarrowText.toString target) then
        return inside target [source]
      else return [(source, target)]
  | operands, none => do
      if found.has "T" then extraOperand tool (operands.getD 2 [])
      let target := operands.getLastD []
      leads "target" target
      return inside target operands.dropLast

/-! ## Copies -/

/-- How entries are copied. -/
structure CopyStyle where
  tool : NarrowText
  recursive : Bool
  follows : Bool
  tells : Bool
  asks : Bool
  keeps : Bool
  replaces : Bool

/-- Copy the octets of a file to a path. -/
def copyFile (style : CopyStyle) (source target : NarrowText) : Work Bool := do
  let tool := style.tool
  let before := (← get).files
  let place := before.findSelf (NarrowText.toString target)
  match before.find (NarrowText.toString target), place with
  | .error _, .ok (_, .link _) => do
      Work.complain tool ("not writing through dangling symlink ".toList ++
        Work.quotedName target)
      return false
  | there, _ => do
      match (← get).readFile source with
      | .error fault => do
          Work.complain tool ("cannot open ".toList ++ Work.quotedName source ++
            " for reading: ".toList ++ fault.description.toList)
          return false
      | .ok text => do
          if style.replaces then
            match place with
            | .ok (location, .file _ _) => setFiles (before.without location)
            | _ => pure ()
          match (← get).opened .replace target with
          | .error fault => do
              let fault :=
                if fault = .isDirectory ∧ target.getLast? = some '/' then .notDirectory else fault
              complainWith tool "cannot create regular file" target fault
              return false
          | .ok (number, s) => do
              set (s.writeTo number ((s.streams[number]?).getD default) text).2
              match there, before.find (NarrowText.toString source),
                (← get).files.find (NarrowText.toString target) with
              | .error _, .ok (_, .file _ executable), .ok (location, _) =>
                  setFiles ((← get).files.setExecutable location executable)
              | _, _, _ => pure ()
              return true

/-- Copy an entry to a path, at most `limit` levels of it. -/
def copyEntry (style : CopyStyle) : Nat → NarrowText → NarrowText → Work Bool
  | 0, _, _ => return false
  | limit + 1, source, target => do
      let tool := style.tool
      let fs := (← get).files
      let name := NarrowText.toString source
      let found := if style.follows then fs.find name else fs.findSelf name
      let tell : Work Unit := do
        if style.tells then
          Work.print tool
            (Work.quotedName source ++ " -> ".toList ++ Work.quotedName target ++ ['\n'])
      match found with
      | .error fault => do
          complainWith tool "cannot stat" source fault
          return false
      | .ok (location, entry) => do
          let there := fs.find (NarrowText.toString target)
          match there with
          | .error .notDirectory =>
              if target.getLast? ≠ some '/' then
                complainWith tool "cannot stat" target .notDirectory
                return false
          | _ => pure ()
          match entry, there with
          | .directory entries, _ => do
              if !style.recursive then
                Work.complain tool ("-r not specified; omitting directory ".toList ++
                  Work.quotedName source)
                return false
              match there with
              | .ok (_, .directory _) => pure ()
              | .ok _ => do
                  Work.complain tool ("cannot overwrite non-directory ".toList ++
                    Work.quotedName target ++ " with directory ".toList ++ Work.quotedName source)
                  return false
              | .error _ => do
                  if !(← changeFiles tool "cannot create directory" target fun fs =>
                      fs.createDirectory (NarrowText.toString target)) then return false
                  tell
              let inside :=
                match (← get).files.find (NarrowText.toString target) with
                | .ok (place, _) => location.isPrefixOf place
                | .error _ => false
              let mut fine := true
              for (name, _) in entries do
                let name := NarrowText.ofString name
                if !(← copyEntry { style with follows := false } limit (inDirectory source name)
                    (inDirectory target name)) then fine := false
              if inside then
                Work.complain tool ("cannot copy a directory, ".toList ++ Work.quotedName source ++
                  ", into itself, ".toList ++ Work.quotedName target)
                return false
              return fine
          | .link path, _ => do
              match fs.findSelf (NarrowText.toString target) with
              | .ok (place, .link _) | .ok (place, .file _ _) => setFiles (fs.without place)
              | _ => pure ()
              if ← changeFiles tool "cannot create symbolic link" target fun fs =>
                  fs.makeLink path (NarrowText.toString target) then
                tell
                return true
              else return false
          | .file _ _, .ok (_, .directory _) => do
              Work.complain tool ("cannot overwrite directory ".toList ++ Work.quotedName target ++
                " with non-directory".toList)
              return false
          | .file _ _, there => do
              match there with
              | .ok (place, _) => do
                  if place = location then
                    Work.complain tool (Work.quotedName source ++ " and ".toList ++
                      Work.quotedName target ++ " are the same file".toList)
                    return false
                  if style.keeps then return true
                  if style.asks then
                    if !(← confirms tool ("overwrite ".toList ++ Work.quotedName target)) then
                      return false
              | .error _ => pure ()
              if ← copyFile style source target then
                tell
                return true
              else return false

/-- Copy files and directories. -/
def cp : Tool := fun _ tool arguments => do
  let found ← optionsOf tool 1
    [option 'a' "archive", flag 'b', flag 'd', option 'f' "force", option 'i' "interactive",
      flag 'H', option 'l' "link", option 'L' "dereference", option 'n' "no-clobber",
      option 'P' "no-dereference", flag 'p', longPerhaps "preserve", long "parents",
      option 'r' "recursive", flag 'R', option 's' "symbolic-link", option 'S' "suffix",
      valued 't' "target-directory", option 'T' "no-target-directory", option 'u' "update",
      option 'v' "verbose", option 'x' "one-file-system", long "remove-destination"] true arguments
  let recursive := found.has "r" || found.has "R" || found.has "a"
  let style : CopyStyle :=
    { tool
      recursive
      follows := !(found.has "P" || found.has "d" || found.has "a" || recursive) || found.has "L"
      tells := found.has "v"
      asks := found.lastOf ["i", "n"] = some "i"
      keeps := found.lastOf ["i", "n"] = some "n"
      replaces := found.has "remove-destination" }
  let pairs ← destinations tool found
  let mut fine := true
  for (source, target) in pairs do
    let target :=
      if found.has "parents" then inDirectory (found.operands.getLastD []) source else target
    if found.has "parents" then
      for above in pathsAbove (beforeLastName target) do
        if !(← get).files.isDirectory (NarrowText.toString above) then
          let _ ← changeFiles tool "cannot make directory" above fun fs =>
            fs.createDirectory (NarrowText.toString above)
    if !(← copyEntry style maxLevels source target) then fine := false
  return Work.statusOf fine

/-- Copy programs and make directories. -/
def install : Tool := fun start tool arguments => do
  let found ← optionsOf tool 1
    [flag 'b', flag 'c', option 'd' "directory", flag 'D', valued 'g' "group", valued 'm' "mode",
      valued 'o' "owner", option 'p' "preserve-timestamps", valued 't' "target-directory",
      option 'T' "no-target-directory", option 'v' "verbose"] true arguments
  if found.has "d" then mkdir start tool ("-p".toList :: found.operands)
  else do
    if found.has "D" then
      let _ ← mkdir start tool ["-p".toList, beforeLastName (found.operands.getLastD [])]
    let pairs ← destinations tool found
    let style : CopyStyle := ⟨tool, false, true, found.has "v", false, false, true⟩
    let effect := ((found.value? "m").bind modeEffect?).getD fun _ _ => true
    let mut fine := true
    for (source, target) in pairs do
      if ← copyEntry style maxLevels source target then
        match (← get).files.find (NarrowText.toString target) with
        | .ok (location, _) => setFiles ((← get).files.setExecutable location (effect false false))
        | .error _ => pure ()
      else fine := false
    return Work.statusOf fine

/-! ## Moves -/

/-- Give files and directories other names. -/
def mv : Tool := fun _ tool arguments => do
  let found ← optionsOf tool 1
    [flag 'b', option 'f' "force", option 'i' "interactive", option 'n' "no-clobber",
      longPerhaps "strip-trailing-slashes", valued 't' "target-directory",
      option 'T' "no-target-directory", option 'u' "update", option 'v' "verbose"] true arguments
  let pairs ← destinations tool found
  let choice := found.lastOf ["f", "i", "n"]
  let mut fine := true
  for (source, target) in pairs do
    let fs := (← get).files
    let names := Work.quotedName source ++ " to ".toList ++ Work.quotedName target
    match fs.findSelf (NarrowText.toString source), fs.findSelf (NarrowText.toString target) with
    | .error fault, _ => do
        complainWith tool "cannot stat" source fault
        fine := false
    | .ok (location, entry), there => do
        let refused : Option NarrowText :=
          match there with
          | .ok (place, other) =>
              if place = location then
                some (Work.quotedName source ++ " and ".toList ++ Work.quotedName target ++
                  " are the same file".toList)
              else if entry.isDirectory && !other.isDirectory then
                some ("cannot overwrite non-directory ".toList ++ Work.quotedName target ++
                  " with directory ".toList ++ Work.quotedName source)
              else if !entry.isDirectory && other.isDirectory then
                some ("cannot overwrite directory ".toList ++ Work.quotedName target ++
                  " with non-directory ".toList ++ Work.quotedName source)
              else if entry.isDirectory && !other.entries.isEmpty &&
                  !location.isPrefixOf place then
                some ("cannot overwrite ".toList ++ Work.quotedName target ++
                  ": Directory not empty".toList)
              else none
          | .error _ => none
        let stays ←
          match there, choice with
          | .ok _, some "n" => pure true
          | .ok _, some "i" => do
              pure !(← confirms tool ("overwrite ".toList ++ Work.quotedName target))
          | _, _ => pure false
        match refused with
        | some problem => do
            Work.complain tool problem
            fine := false
        | none =>
            if stays then pure ()
            else
              match fs.move (NarrowText.toString source) (NarrowText.toString target) with
              | .ok files => do
                  setFiles files
                  if found.has "v" then
                    Work.print tool ("renamed ".toList ++ Work.quotedName source ++
                      " -> ".toList ++ Work.quotedName target ++ ['\n'])
              | .error .invalid => do
                  Work.complain tool ("cannot move ".toList ++ Work.quotedName source ++
                    " to a subdirectory of itself, ".toList ++ Work.quotedName target)
                  fine := false
              | .error .notDirectory => do
                  if target.getLast? = some '/' then
                    Work.complain tool ("cannot move ".toList ++ names ++
                      ": Not a directory".toList)
                  else complainWith tool "cannot stat" target .notDirectory
                  fine := false
              | .error fault => do
                  Work.complain tool ("cannot move ".toList ++ names ++ ": ".toList ++
                    fault.description.toList)
                  fine := false
  return Work.statusOf fine

end Tools
end SyntaxCensus
