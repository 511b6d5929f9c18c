import SyntaxCensus.Host.Tools.Paths

/-!
# Entries of directories

Tools that make entries and take them out.

Main definitions:

- `Tools.mkdir`, `Tools.rmdir`: directories.
- `Tools.rm`: entries of all kinds.
- `Tools.touch`, `Tools.truncate`, `Tools.mktemp`: files that are made.
- `Tools.ln`: links.
- `Tools.chmod`: whether files may be started.
-/

namespace SyntaxCensus
namespace Tools

/-! ## Common steps -/

/-- Put other files in the place of those of the process. -/
def setFiles (files : FileSystem) : Work Unit :=
  Work.onProcess fun s => { s with files }

/-- Complain about a name between other words. -/
def complainWith (tool : NarrowText) (words : String) (name : NarrowText) (fault : SystemFault) :
    Work Unit :=
  Work.complain tool (words.toList ++ ' ' :: Work.quotedName name ++ ": ".toList ++
    fault.description.toList)

/-- Change the files, or complain; the result says whether they were changed. -/
def changeFiles (tool : NarrowText) (words : String) (name : NarrowText)
    (change : FileSystem → Except SystemFault FileSystem) : Work Bool := do
  match change (← get).files with
  | .ok files => do
      setFiles files
      return true
  | .error fault => do
      complainWith tool words name fault
      return false

/-- Do something for each of some names, and tell whether all of it was
done. -/
def forAll (names : List NarrowText) (step : NarrowText → Work Bool) : Work Nat := do
  let mut fine := true
  for name in names do
    if !(← step name) then fine := false
  return Work.statusOf fine

/-- Ask a question; the answer is the next line of the input. -/
def confirms (tool question : NarrowText) : Work Bool := do
  let _ ← Work.write? 2 (tool ++ ": ".toList ++ question ++ "? ".toList)
  match (← get).left 0 with
  | .error _ => return false
  | .ok text => do
      let line := text.takeWhile (· ≠ '\n')
      Work.onProcess fun s => s.skip 0 (line.length + 1)
      return line.head? = some 'y' || line.head? = some 'Y'

/-! ## Directories -/

/-- A path and those above it, the longest one last. -/
def pathsAbove (path : NarrowText) : List NarrowText :=
  let names := (Text.stretches '/' path).filter fun name => !name.isEmpty
  let front : NarrowText := if path.head? = some '/' then ['/'] else []
  (List.range names.length).map fun i => front ++ ['/'].intercalate (names.take (i + 1))

/-- Make directories. -/
def mkdir : Tool := fun _ tool arguments => do
  let found ← optionsOf tool 1
    [valued 'm' "mode", option 'p' "parents", option 'v' "verbose", flag 'Z'] true arguments
  if found.operands.isEmpty then missingOperand tool none
  let words := "cannot create directory"
  let tell (path : NarrowText) : Work Unit := do
    if found.has "v" then
      Work.print tool (tool ++ ": created directory ".toList ++ Work.quotedName path ++ ['\n'])
  forAll found.operands fun path => do
    if found.has "p" then
      let all := pathsAbove path
      for above in all do
        let fs := (← get).files
        if !fs.isDirectory (NarrowText.toString above) then
          if above ≠ all.getLastD [] && fs.exists? (NarrowText.toString above) then
            complainWith tool words above .notDirectory
            return false
          let name := NarrowText.toString above
          if ← changeFiles tool words above fun fs => fs.createDirectory name then
            tell above
          else return false
      if path.isEmpty then
        complainWith tool words path .notFound
        return false
      return true
    else if ← changeFiles tool words path
        fun fs => fs.createDirectory (NarrowText.toString path) then
      tell path
      return true
    else return false

/-- Take out directories that hold nothing. -/
def rmdir : Tool := fun _ tool arguments => do
  let found ← optionsOf tool 1
    [option 'p' "parents", option 'v' "verbose", long "ignore-fail-on-non-empty"] true arguments
  if found.operands.isEmpty then missingOperand tool none
  let remove (path : NarrowText) : Work Bool := do
    if found.has "v" then
      Work.print tool (tool ++ ": removing directory, ".toList ++ Work.quotedName path ++ ['\n'])
    match (← get).files.removeDirectory (NarrowText.toString path) with
    | .ok files => do
        setFiles files
        return true
    | .error fault => do
        if fault = .notEmpty ∧ found.has "ignore-fail-on-non-empty" = true then return true
        complainWith tool "failed to remove" path fault
        return false
  forAll found.operands fun path => do
    if found.has "p" then
      for above in (pathsAbove path).reverse do
        if !(← remove above) then return false
      return true
    else remove path

/-! ## Taking out -/

/-- What an entry is called in questions. -/
def entryWords : Entry → String
  | .file octets _ => if octets.isEmpty then "regular empty file" else "regular file"
  | .directory _ => "directory"
  | .link _ => "symbolic link"

/-- A name in a directory. -/
def inDirectory (directory name : NarrowText) : NarrowText :=
  if directory.getLast? = some '/' then directory ++ name else directory ++ '/' :: name

/-- Take out an entry and what is in it, telling about each part; at most
`limit` levels. -/
def removeTree (tool : NarrowText) (tells : Bool) (asks : Bool) : Nat → NarrowText → Work Bool
  | 0, _ => return false
  | limit + 1, path => do
      let name := NarrowText.toString path
      match (← get).files.findSelf name with
      | .error fault => do
          complainWith tool "cannot remove" path fault
          return false
      | .ok (_, entry) => do
          let mut fine := true
          if asks && entry.isDirectory && !entry.entries.isEmpty then
            if !(← confirms tool ("descend into directory ".toList ++ Work.quotedName path)) then
              return true
          for (inner, _) in entry.entries do
            let inside := inDirectory path (NarrowText.ofString inner)
            if !(← removeTree tool tells asks limit inside) then
              fine := false
          if asks then
            if !(← confirms tool ("remove ".toList ++ (entryWords entry).toList ++ ' ' ::
              Work.quotedName path)) then return fine
          if entry.isDirectory then
            if !fine then return false
            if ← changeFiles tool "cannot remove" path fun fs => fs.removeDirectory name then
              if tells then
                Work.print tool ("removed directory ".toList ++ Work.quotedName path ++ ['\n'])
              return true
            else return false
          else if ← changeFiles tool "cannot remove" path fun fs => fs.removeFile name then
            if tells then Work.print tool ("removed ".toList ++ Work.quotedName path ++ ['\n'])
            return true
          else return false

/-- How many levels directories have at most. -/
def maxLevels : Nat := 4096

/-- Take out files, and directories if that is asked for. -/
def rm : Tool := fun _ tool arguments => do
  let found ← optionsOf tool 1
    [option 'f' "force", flag 'i', flag 'I', option 'r' "recursive", flag 'R', option 'd' "dir",
      option 'v' "verbose", longPerhaps "preserve-root", long "no-preserve-root",
      long "one-file-system", longPerhaps "interactive"] true arguments
  let last := found.lastOf ["f", "i", "I"]
  let forced := last = some "f"
  let asks := last = some "i"
  let recursive := found.has "r" || found.has "R"
  if found.operands.isEmpty then
    if forced then return 0 else missingOperand tool none
  forAll found.operands fun path => do
    let name := lastName path
    if name = ['.'] || name = ['.', '.'] then
      if recursive then
        Work.complain tool ("refusing to remove '.' or '..' directory: skipping ".toList ++
          Work.quotedName path)
      else complainWith tool "cannot remove" path .isDirectory
      return false
    match (← get).files.findSelf (NarrowText.toString path) with
    | .error fault => do
        if forced && (fault = .notFound || fault = .notDirectory) then return true
        complainWith tool "cannot remove" path fault
        return false
    | .ok ([], _) => do
        if !recursive then
          complainWith tool "cannot remove" path .isDirectory
        else
          Work.complain tool "it is dangerous to operate recursively on '/'".toList
          Work.complain tool "use --no-preserve-root to override this failsafe".toList
        return false
    | .ok (_, entry) => do
        if entry.isDirectory && !recursive && !(found.has "d" && entry.entries.isEmpty) then
          complainWith tool "cannot remove" path
            (if found.has "d" then .notEmpty else .isDirectory)
          return false
        if found.has "v" || asks then removeTree tool (found.has "v") asks maxLevels path
        else
          changeFiles tool "cannot remove" path fun fs => fs.removeAll (NarrowText.toString path)

/-- Take out one file. -/
def unlink : Tool := fun _ tool arguments => do
  let found ← optionsOf tool 1 [] true arguments
  match found.operands with
  | [] => missingOperand tool none
  | [path] => do
      return Work.statusOf (← changeFiles tool "cannot unlink" path fun fs =>
        fs.removeFile (NarrowText.toString path))
  | _ :: extra :: _ => extraOperand tool extra

/-! ## Making -/

/-- A path leads to something. -/
def leadsSomewhere (path : NarrowText) : Work Bool := do
  match (← get).files.find (NarrowText.toString path) with
  | .ok _ => return true
  | .error _ => return false

/-- Make files that are not there. -/
def touch : Tool := fun _ tool arguments => do
  let found ← optionsOf tool 1
    [flag 'a', option 'c' "no-create", valued 'd' "date", flag 'f', option 'h' "no-dereference",
      flag 'm', valued 'r' "reference", ⟨"t", some 't', none, .always⟩, longValued "time"]
    true arguments
  if found.operands.isEmpty then misuse tool 1 "missing file operand".toList
  match found.value? "r" with
  | none => pure ()
  | some path =>
      match (← get).files.find (NarrowText.toString path) with
      | .ok _ => pure ()
      | .error fault => do
          complainWith tool "failed to get attributes of" path fault
          Work.exit 1
  forAll found.operands fun path => do
    if path = ['-'] then return true
    if ← leadsSomewhere path then return true
    if found.has "c" || found.has "h" then return true
    match (← get).opened .extend path with
    | .ok (_, s) => do
        setFiles s.files
        return true
    | .error .isDirectory => do
        complainWith tool "cannot touch" path .notFound
        return false
    | .error fault => do
        complainWith tool "cannot touch" path fault
        return false

/-- The octets that a size with a letter behind it stands for. -/
def sizeOf? (text : NarrowText) : Option Nat :=
  match Numeral.decimal? text with
  | none => none
  | some (count, rest) =>
      match rest with
      | [] => some count
      | letter :: more =>
          match "KMGTPE".toList.findIdx? fun known => known = letter.toUpper with
          | none => if letter = 'b' ∧ more.isEmpty = true then some (count * 512) else none
          | some i =>
              let power (base : Nat) : Nat :=
                (List.replicate (i + 1) base).foldl (fun product factor => product * factor) 1
              if more.isEmpty || more = ['i', 'B'] then some (count * power 1024)
              else if more = ['B'] then some (count * power 1000)
              else none

/-- Cut files to a size, or fill them up to it. -/
def truncate : Tool := fun _ tool arguments => do
  let found ← optionsOf tool 1
    [option 'c' "no-create", option 'o' "io-blocks", valued 'r' "reference", valued 's' "size"]
    true arguments
  match found.value? "s" with
  | none => misuse tool 1 "you must specify either '--size' or '--reference'".toList
  | some text => do
      if found.operands.isEmpty then misuse tool 1 "missing file operand".toList
      let (mark, digits) :=
        match text with
        | c :: rest => if "+-<>/%".toList.contains c then (c, rest) else ('=', text)
        | [] => ('=', [])
      match sizeOf? digits with
      | none => Work.fail tool 1 ("Invalid number: ".toList ++ Work.quoted text)
      | some size =>
          forAll found.operands fun path => do
            if found.has "c" && !(← leadsSomewhere path) then return true
            match (← get).opened .keep path with
            | .ok (number, s) => do
                match s.streams[number]? with
                | some (.file location _ _ _ _) =>
                    let content := s.files.contentAt location
                    let now := content.length
                    let wanted :=
                      match mark with
                      | '+' => now + size
                      | '-' => now - size
                      | '<' => min now size
                      | '>' => max now size
                      | '/' => now / max 1 size * size
                      | '%' => (now + size - 1) / max 1 size * size
                      | _ => size
                    let filled := content.take wanted ++ List.replicate (wanted - now) 0
                    setFiles (s.files.writeAt location filled)
                | _ => pure ()
                return true
            | .error fault => do
                Work.complain tool ("cannot open ".toList ++ Work.quotedName path ++
                  " for writing: ".toList ++ fault.description.toList)
                return false

/-- Letters in the place of those of a template, as a number says. -/
def fillTemplate (number : Nat) : NarrowText → NarrowText
  | [] => []
  | _ :: rest => Char.ofNat (0x41 + number % 26) :: fillTemplate (number / 26) rest

/-- The first free path among those that a template gives; at most `limit` of
them are tried. -/
def freeName? (fs : FileSystem) (front marks back : NarrowText) (number : Nat) :
    Nat → Option NarrowText
  | 0 => none
  | limit + 1 =>
      let path := front ++ fillTemplate number marks ++ back
      match fs.findSelf (NarrowText.toString path) with
      | .ok _ => freeName? fs front marks back (number + 1) limit
      | .error _ => some path

/-- Make a file or a directory with a name that is not in use. -/
def mktemp : Tool := fun _ tool arguments => do
  let found ← optionsOf tool 1
    [option 'd' "directory", option 'u' "dry-run", option 'q' "quiet", longValued "suffix",
      ⟨"p", some 'p', none, .always⟩, longPerhaps "tmpdir", flag 't'] true arguments
  match found.operands with
  | _ :: _ :: _ => misuse tool 1 "too many templates".toList
  | operands => do
      let s ← get
      let standard := (s.bound? "TMPDIR").getD "/tmp".toList
      let directory : Option NarrowText :=
        match found.value? "p", found.value? "tmpdir" with
        | some path, _ => some (if path.isEmpty then standard else path)
        | none, some path => some (if path.isEmpty then standard else path)
        | none, none => if operands.isEmpty || found.has "t" then some standard else none
      let template := operands.headD "tmp.XXXXXXXXXX".toList
      let suffix := (found.value? "suffix").getD []
      let tail := if suffix.isEmpty then (template.reverse.takeWhile (· ≠ 'X')).reverse else suffix
      let body :=
        if suffix.isEmpty then template.take (template.length - tail.length) else template
      let marks := body.reverse.takeWhile (· = 'X')
      if marks.length < 3 then
        Work.fail tool 1 ("too few X's in template ".toList ++ Work.quoted template)
      let front := body.take (body.length - marks.length)
      let front :=
        match directory with
        | some directory => inDirectory directory front
        | none => front
      match freeName? s.files front marks tail (s.number * 26 + 7) 10000 with
      | none => return 1
      | some path => do
          if !found.has "u" then
            let name := NarrowText.toString path
            let made : Except SystemFault FileSystem :=
              if found.has "d" then s.files.createDirectory name
              else (s.files.truncate name).map Prod.snd
            match made with
            | .ok files => setFiles files
            | .error fault => do
                if !found.has "q" then
                  Work.complain tool ("failed to create ".toList ++
                    (if found.has "d" then "directory" else "file").toList ++
                    " via template ".toList ++ Work.quotedName (front ++ marks ++ tail) ++
                    ": ".toList ++ fault.description.toList)
                Work.exit 1
          Work.printLines tool [path]
          return 0

/-! ## Links -/

/-- Make links. -/
def ln : Tool := fun _ tool arguments => do
  let found ← optionsOf tool 1
    [option 's' "symbolic", option 'f' "force", option 'n' "no-dereference",
      option 'v' "verbose", option 'T' "no-target-directory", valued 't' "target-directory",
      option 'r' "relative", option 'i' "interactive", option 'L' "logical",
      option 'P' "physical"] true arguments
  let symbolic := found.has "s"
  let isDirectory (path : NarrowText) : Work Bool := do
    let fs := (← get).files
    match fs.findSelf (NarrowText.toString path) with
    | .ok (_, .link _) =>
        return !found.has "n" && fs.isDirectory (NarrowText.toString path)
    | _ => return fs.isDirectory (NarrowText.toString path)
  let (sources, directory, single) ←
    match found.operands, found.value? "t" with
    | [], _ => misuse tool 1 "missing file operand".toList
    | operands, some directory => pure (operands, some directory, none)
    | [source], none =>
        if found.has "T" then
          misuse tool 1 ("missing destination file operand after ".toList ++
            Work.quotedName source)
        else pure ([source], some ['.'], none)
    | [source, target], none => do
        if !found.has "T" && (← isDirectory target) then pure ([source], some target, none)
        else pure ([source], none, some target)
    | operands, none => do
        let target := operands.getLastD []
        if found.has "T" then extraOperand tool (operands.getD 2 [])
        match (← get).files.find (NarrowText.toString target) with
        | .ok (_, .directory _) => pure (operands.dropLast, some target, none)
        | .ok _ =>
            Work.fail tool 1 ("target ".toList ++ Work.quotedName target ++
              ": Not a directory".toList)
        | .error fault =>
            Work.fail tool 1 ("target ".toList ++ Work.quotedName target ++ ": ".toList ++
              fault.description.toList)
  let kind := if symbolic then "symbolic link" else "hard link"
  forAll sources fun source => do
    let path :=
      match single, directory with
      | some path, _ => path
      | none, some directory => inDirectory directory (lastName source)
      | none, none => source
    let name := NarrowText.toString path
    let fs := (← get).files
    if !symbolic then
      match fs.findSelf (NarrowText.toString source) with
      | .error fault => do
          complainWith tool "failed to access" source fault
          return false
      | .ok (_, .directory _) => do
          Work.complain tool
            (Work.shownName source ++ ": hard link not allowed for directory".toList)
          return false
      | .ok _ => pure ()
    if found.has "f" then
      match fs.findSelf name with
      | .ok (_, .directory _) | .error _ => pure ()
      | .ok (location, _) => setFiles (fs.without location)
    let target ←
      if found.has "r" && symbolic then
        let here := looseLocation fs (NarrowText.toString source)
          (Path.names (NarrowText.toString source)).length
        let there := looseLocation fs (NarrowText.toString (beforeLastName path))
          (Path.names (NarrowText.toString (beforeLastName path))).length
        pure (relativePath there here)
      else pure source
    let made ← changeFiles tool ("failed to create " ++ kind) path fun fs =>
      if symbolic then fs.makeLink (NarrowText.toString target) name
      else fs.makeName (NarrowText.toString source) name
    if made && found.has "v" then
      Work.print tool (Work.quotedName path ++
        (if symbolic then " -> " else " => ").toList ++ Work.quotedName target ++ ['\n'])
    return made

/-! ## What may be started -/

/-- How a mode changes whether a file may be started; the flag says that it is
a directory. -/
def modeEffect? (mode : NarrowText) : Option (Bool → Bool → Bool) :=
  if !mode.isEmpty && mode.all (Numeral.isDigitOf 8) then
    let value := Numeral.ofDigits 8 mode
    if value < 4096 then
      some fun _ _ => value % 2 = 1 || value / 8 % 2 = 1 || value / 64 % 2 = 1
    else none
  else
    (Text.stretches ',' mode).foldl
      (fun effect? clause =>
        effect?.bind fun effect =>
          let users := clause.takeWhile fun c => "ugoa".toList.contains c
          let everyone := users.isEmpty || users.contains 'a' || users.length = 3
          match clause.dropWhile fun c => "ugoa".toList.contains c with
          | sign :: letters =>
              let wanted := letters.contains 'x'
              if !letters.all fun c => "rwxXstugo".toList.contains c then none
              else
                match sign with
                | '+' =>
                    some fun directory before =>
                      effect directory before || wanted || (letters.contains 'X' && directory)
                | '-' =>
                    some fun directory before => effect directory before && !(wanted && everyone)
                | '=' =>
                    some fun directory before =>
                      wanted || (effect directory before && !everyone)
                | _ => none
          | [] => none)
      (some fun _ before => before)

/-- Change whether files may be started. -/
def chmod : Tool := fun _ tool arguments => do
  let isMode (word : NarrowText) : Bool :=
    match word with
    | '-' :: c :: rest => (c :: rest).all fun d => "rwxXstugo,+=-".toList.contains d
    | _ => false
  let (taken, arguments) :=
    match arguments with
    | word :: rest => if isMode word then (some word, rest) else (none, word :: rest)
    | [] => (none, [])
  let found ← optionsOf tool 1
    [option 'c' "changes", option 'f' "silent", long "quiet", option 'v' "verbose",
      option 'R' "recursive", longValued "reference"] true arguments
  let operands := taken.toList ++ found.operands
  match operands with
  | [] => missingOperand tool none
  | [mode] => missingOperand tool (some mode)
  | mode :: paths =>
      match modeEffect? mode with
      | none => misuse tool 1 ("invalid mode: ".toList ++ Work.quoted mode)
      | some effect =>
          forAll paths fun path => do
            let fs := (← get).files
            match fs.find (NarrowText.toString path) with
            | .ok (location, .file _ executable) => do
                setFiles (fs.setExecutable location (effect false executable))
                return true
            | .ok (location, entry) => do
                if found.has "R" then
                  for (inside, _) in entry.regularFiles do
                    let place := location ++ inside
                    Work.onProcess fun s =>
                      { s with
                        files := s.files.setExecutable place
                          (effect false (s.files.isExecutableAt place)) }
                return true
            | .error fault => do
                if !found.has "f" then complainWith tool "cannot access" path fault
                return false

end Tools
end SyntaxCensus
