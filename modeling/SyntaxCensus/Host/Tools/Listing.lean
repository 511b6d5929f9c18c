import SyntaxCensus.Host.Text.Escapes
import SyntaxCensus.Host.Text.Pattern
import SyntaxCensus.Host.Tools.Entries
import SyntaxCensus.Host.Tools.Ordering

/-!
# Listing

Tools that tell what is in directories.

Main definitions:

- `Listed`: an entry that is shown.
- `Tools.inColumns`: names in columns.
- `Tools.ls`, `Tools.stat`: the tools.
-/

namespace SyntaxCensus
namespace Tools

/-- An entry that is shown: under a name, with its path. -/
structure Listed where
  name : NarrowText
  path : NarrowText
  entry : Entry

namespace Listed

/-- The octets that an entry takes up. -/
def size (listed : Listed) : Nat :=
  match listed.entry with
  | .file octets _ => octets.length
  | .directory _ => 4096
  | .link target => target.utf8ByteSize

/-- The kilobytes that an entry takes up, in whole blocks. -/
def blocks (listed : Listed) : Nat :=
  match listed.entry with
  | .link _ => 0
  | _ => (listed.size + 4095) / 4096 * 4

/-- The letters for what may be done with an entry. -/
def modeLetters (listed : Listed) : NarrowText :=
  match listed.entry with
  | .file _ false => "-rw-r--r--".toList
  | .file _ true => "-rwxr-xr-x".toList
  | .directory _ => "drwxr-xr-x".toList
  | .link _ => "lrwxrwxrwx".toList

/-- The number for what may be done with an entry. -/
def modeDigits (listed : Listed) : String :=
  match listed.entry with
  | .file _ false => "644"
  | .file _ true | .directory _ => "755"
  | .link _ => "777"

/-- How many names an entry has. -/
def nameCount (listed : Listed) : Nat :=
  match listed.entry with
  | .directory entries => 2 + (entries.filter fun entry => entry.2.isDirectory).length
  | _ => 1

/-- The mark that shows what an entry is. -/
def mark (listed : Listed) : NarrowText :=
  match listed.entry with
  | .file _ true => ['*']
  | .directory _ => ['/']
  | .link _ => ['@']
  | .file _ false => []

end Listed

/-! ## Columns -/

/-- The greatest of some numbers. -/
def greatest (numbers : List Nat) : Nat :=
  numbers.foldl max 0

/-- The names of each of a number of columns, filled from above or from the
side. -/
def dealt (across : Bool) (count rows : Nat) (names : List NarrowText) : List (List NarrowText) :=
  let all := names.toArray
  (List.range count).map fun column =>
    (List.range rows).filterMap fun row =>
      if across then all[row * count + column]? else all[column * rows + row]?

/-- The rows of as many columns as fit a width; at most `limit` are tried. -/
def columnRows (across : Bool) (width : Nat) (names : List NarrowText) : Nat →
    List (List NarrowText) × List Nat
  | 0 => (names.map fun name => [name], [0])
  | limit + 1 =>
      let rows := (names.length + limit) / (limit + 1)
      let columns := dealt across (limit + 1) rows names
      let filled := !across && columns.any List.isEmpty
      let widths := columns.map fun column => greatest (column.map List.length) + 2
      let total := widths.foldl (fun sum width => sum + width) 0
      if !filled && (total ≤ width + 2 || limit = 0) then
        ((List.range rows).map fun row => columns.filterMap fun column => column[row]?, widths)
      else columnRows across width names limit

/-- Blanks and tabs from one column to another one; at most `limit` of them. -/
def gap (column target : Nat) : Nat → NarrowText
  | 0 => []
  | limit + 1 =>
      if target ≤ column then []
      else if (column + 1) / 8 < target / 8 then
        '\t' :: gap (column + 8 - column % 8) target limit
      else ' ' :: gap (column + 1) target limit

/-- A row with its names at the beginnings of columns. -/
def rowText (column place : Nat) : List NarrowText → List Nat → NarrowText
  | [], _ => []
  | [last], _ => gap place column (column + 1) ++ last
  | name :: rest, widths =>
      gap place column (column + 1) ++ name ++
        rowText (column + widths.headD 0) (column + name.length) rest widths.tail

/-- Names in columns. -/
def inColumns (across : Bool) (width : Nat) (names : List NarrowText) : List NarrowText :=
  if names.isEmpty then []
  else
    let (rows, widths) := columnRows across width names (min names.length (width / 3 + 1))
    rows.map fun row => rowText 0 0 row widths

/-- Names with commas between them, in lines that fit a width. -/
def withCommas (width column : Nat) : List NarrowText → NarrowText
  | [] => []
  | [last] => last
  | name :: next :: rest =>
      let place := column + name.length + 2
      if place + next.length + 1 < width then
        name ++ ", ".toList ++ withCommas width place (next :: rest)
      else name ++ ",\n".toList ++ withCommas width 0 (next :: rest)

/-! ## Directories -/

/-- Numbers with blanks before them, up to a width. -/
def rightAligned (width : Nat) (text : NarrowText) : NarrowText :=
  List.replicate (width - text.length) ' ' ++ text

/-- A size as people read it. -/
def humanSize (size : Nat) : NarrowText :=
  if size < 1024 then Numeral.ofNat size
  else scaled size 1 "KMGT".toList
where
  /-- A size in units of a power of 1024. -/
  scaled (size unit : Nat) : List Char → NarrowText
    | [] => Numeral.ofNat size
    | letter :: rest =>
        let unit := unit * 1024
        if size < unit * 1024 || rest.isEmpty then
          let tenths := (size * 10 + unit - 1) / unit
          if tenths < 100 then
            Numeral.ofNat (tenths / 10) ++ '.' :: Numeral.ofNat (tenths % 10) ++ [letter]
          else Numeral.ofNat ((size + unit - 1) / unit) ++ [letter]
        else scaled size unit rest

/-- Whether the names of one entry come before those of another one, in the
order that options ask for. -/
def comesBefore (found : Found) (a b : Listed) : Bool :=
  let byName := compareTexts a.name b.name
  let extension (listed : Listed) : NarrowText :=
    if listed.name.contains '.' then (listed.name.reverse.takeWhile (· ≠ '.')).reverse else []
  let order :=
    if found.has "S" || found.value? "sort" = some "size".toList then
      (compare b.size a.size).then byName
    else if found.has "X" || found.value? "sort" = some "extension".toList then
      (compareTexts (extension a) (extension b)).then byName
    else if found.has "v" || found.value? "sort" = some "version".toList then
      (compareVersions (a.name.length + b.name.length) a.name b.name).then byName
    else byName
  if found.has "r" then order.isGE else order.isLE

/-- The lines for some entries. -/
def shownEntries (found : Found) (isDirectory : Bool) (all : List Listed) : NarrowText :=
  let all := if found.has "U" || found.has "f" then all else all.mergeSort (comesBefore found)
  let name (listed : Listed) : NarrowText :=
    let bare := if found.has "Q" then '"' :: listed.name ++ ['"'] else listed.name
    if found.has "F" then bare ++ listed.mark
    else if found.has "p" && listed.entry.isDirectory then bare ++ ['/']
    else bare
  let size (listed : Listed) : NarrowText :=
    if found.has "h" then humanSize listed.size else Numeral.ofNat listed.size
  let blockWidth := greatest (all.map fun listed => (Numeral.ofNat listed.blocks).length)
  let withBlocks (listed : Listed) (text : NarrowText) : NarrowText :=
    if found.has "s" then rightAligned blockWidth (Numeral.ofNat listed.blocks) ++ ' ' :: text
    else text
  let long := found.has "l" || found.has "g" || found.has "o" || found.has "n"
  let total :=
    if isDirectory && (long || found.has "s") then
      "total ".toList ++
        Numeral.ofNat (all.foldl (fun sum listed => sum + listed.blocks) 0) ++ ['\n']
    else []
  let body :=
    if long then
      let countWidth := greatest (all.map fun listed => (Numeral.ofNat listed.nameCount).length)
      let sizeWidth := greatest (all.map fun listed => (size listed).length)
      let owner := if found.has "n" then ['0'] else "root".toList
      all.flatMap fun listed =>
        let target : NarrowText :=
          match listed.entry with
          | .link target => " -> ".toList ++ NarrowText.ofString target
          | _ => []
        let shown := if target.isEmpty then name listed else listed.name ++ target
        withBlocks listed ([' '].intercalate
          ([listed.modeLetters, rightAligned countWidth (Numeral.ofNat listed.nameCount)] ++
            (if found.has "g" then [] else [owner]) ++
            (if found.has "o" || found.has "G" then [] else [owner]) ++
            [rightAligned sizeWidth (size listed), "Jan  1 00:00".toList, shown])) ++ ['\n']
    else
      let texts := all.map fun listed => withBlocks listed (name listed)
      match found.lastOf ["1", "C", "x", "m"] with
      | some "C" => (inColumns false 80 texts).flatMap fun line => line ++ ['\n']
      | some "x" => (inColumns true 80 texts).flatMap fun line => line ++ ['\n']
      | some "m" => if texts.isEmpty then [] else withCommas 80 0 texts ++ ['\n']
      | _ => texts.flatMap fun line => line ++ [endMark found]
  total ++ body

/-- The entries of a directory that are shown. -/
def shownIn (found : Found) (fs : FileSystem) (path : NarrowText) (location : List String)
    (entries : List (String × Entry)) : List Listed :=
  let everything := found.has "a" || found.has "f"
  let ignored := found.values "I" ++
    (if found.has "A" || everything then [] else found.values "hide")
  let own (name : String) (place : List String) : List Listed :=
    match fs.tree.at? place with
    | some entry => [⟨name.toList, inDirectory path name.toList, entry⟩]
    | none => []
  (if everything then own "." location ++ own ".." location.dropLast else []) ++
    entries.filterMap fun (name, entry) =>
      let name := NarrowText.ofString name
      let hidden := name.head? = some '.'
      if hidden && !everything && !found.has "A" then none
      else if found.has "B" && name.getLast? = some '~' then none
      else if ignored.any fun pattern => Pattern.fits pattern name then none
      else some ⟨name, inDirectory path name, entry⟩

/-- Directories with those in them, at most `limit` levels. -/
def nested (found : Found) (fs : FileSystem) : Nat → NarrowText → List String →
    List (String × Entry) → List (NarrowText × List Listed)
  | 0, _, _, _ => []
  | limit + 1, path, location, entries =>
      let all := shownIn found fs path location entries
      let inner := (all.filter fun listed =>
        listed.entry.isDirectory && listed.name ≠ ['.'] && listed.name ≠ ['.', '.']).mergeSort
          (comesBefore found)
      (path, all) ::
        inner.flatMap fun listed =>
          nested found fs limit listed.path (location ++ [NarrowText.toString listed.name])
            listed.entry.entries

/-- List files and directories. -/
def ls : Tool := fun _ tool arguments => do
  let found ← optionsOf tool 2
    [option 'a' "all", option 'A' "almost-all", flag 'b', option 'B' "ignore-backups", flag 'c',
      flag 'C', longPerhaps "color", option 'd' "directory", flag 'f', option 'F' "classify",
      flag 'g', option 'G' "no-group", option 'h' "human-readable", valued 'I' "ignore",
      longValued "hide", option 'i' "inode", option 'k' "kibibytes", flag 'l',
      option 'L' "dereference", flag 'm', option 'n' "numeric-uid-gid", option 'N' "literal",
      flag 'o', flag 'p', option 'q' "hide-control-chars", option 'Q' "quote-name",
      option 'r' "reverse", option 'R' "recursive", option 's' "size", flag 'S',
      longValued "sort", flag 't', flag 'u', flag 'U', flag 'v', valued 'w' "width", flag 'x',
      flag 'X', flag '1', ⟨"z", none, some "zero", .never⟩, longValued "time-style",
      long "group-directories-first"] true arguments
  let names := if found.operands.isEmpty then [['.']] else found.operands
  let direct := found.has "d"
  let staysAtLinks := found.has "l" || direct || found.has "F"
  let mut files : List Listed := []
  let mut directories : List (NarrowText × List String × List (String × Entry)) := []
  let mut fine := true
  for name in names do
    let fs := (← get).files
    let path := NarrowText.toString name
    let self := fs.findSelf path
    let place : Except SystemFault (List String × Entry) :=
      match self, fs.find path with
      | .ok here, .error _ => .ok here
      | .ok (location, .link target), there =>
          if staysAtLinks && !found.has "L" then .ok (location, .link target) else there
      | _, there => there
    match place with
    | .error fault => do
        complainWith tool "cannot access" name fault
        fine := false
    | .ok (location, .directory entries) =>
        if direct then files := files ++ [⟨name, name, .directory entries⟩]
        else directories := directories ++ [(name, location, entries)]
    | .ok (_, entry) => files := files ++ [⟨name, name, entry⟩]
  let fs := (← get).files
  let ordered := directories.mergeSort fun a b =>
    if found.has "r" then (compareTexts a.1 b.1).isGE else (compareTexts a.1 b.1).isLE
  let parts := ordered.flatMap fun (name, location, entries) =>
    if found.has "R" then nested found fs maxLevels name location entries
    else [(name, shownIn found fs name location entries)]
  let headed := found.has "R" || 1 < names.length
  let blocks := (if files.isEmpty then [] else [shownEntries found false files]) ++
    parts.map fun (name, all) =>
      (if headed then name ++ ":\n".toList else []) ++ shownEntries found true all
  Work.print tool (['\n'].intercalate blocks)
  return if fine then 0 else 2

/-! ## Single entries -/

/-- What an entry is, in words. -/
def kindWords (listed : Listed) : String :=
  match listed.entry with
  | .file octets _ => if octets.isEmpty then "regular empty file" else "regular file"
  | .directory _ => "directory"
  | .link _ => "symbolic link"

/-- A format for an entry with its directives replaced. -/
def describe (listed : Listed) : NarrowText → NarrowText
  | '%' :: letter :: rest =>
      let meaning : NarrowText :=
        match letter with
        | '%' => ['%']
        | 'n' => listed.path
        | 'N' =>
            match listed.entry with
            | .link target =>
                Work.quotedName listed.path ++ " -> ".toList ++
                  Work.quotedName (NarrowText.ofString target)
            | _ => Work.quotedName listed.path
        | 's' => Numeral.ofNat listed.size
        | 'b' => Numeral.ofNat (listed.blocks * 2)
        | 'B' => "512".toList
        | 'F' => (kindWords listed).toList
        | 'a' => listed.modeDigits.toList
        | 'A' => listed.modeLetters
        | 'h' => Numeral.ofNat listed.nameCount
        | 'U' | 'G' => "root".toList
        | 'u' | 'g' => ['0']
        | 'o' => "4096".toList
        | 'X' | 'Y' | 'Z' | 'W' => ['0']
        | _ => ['?']
      meaning ++ describe listed rest
  | c :: rest => c :: describe listed rest
  | [] => []

/-- Tell about entries in a format. -/
def stat : Tool := fun _ tool arguments => do
  let found ← optionsOf tool 1
    [valued 'c' "format", longValued "printf", option 'L' "dereference", option 't' "terse",
      option 'f' "file-system"] true arguments
  if found.operands.isEmpty then missingOperand tool none
  forAll found.operands fun path => do
    let fs := (← get).files
    let name := NarrowText.toString path
    match if found.has "L" then fs.find name else fs.findSelf name with
    | .error fault => do
        complainWith tool "cannot statx" path fault
        return false
    | .ok (_, entry) => do
        let listed : Listed := ⟨path, path, entry⟩
        match found.value? "printf", found.value? "c" with
        | some format, _ =>
            Work.print tool (describe listed (EscapeStyle.extendedFormat.unescape format).1)
        | none, some format => Work.printLines tool [describe listed format]
        | none, none =>
            Work.printLines tool
              ["  File: ".toList ++ path, "  Size: ".toList ++ Numeral.ofNat listed.size]
        return true

/-- The kilobytes of an entry and of everything in it, at most `limit`
levels. -/
def usage (apparent : Bool) : Nat → Listed → Nat
  | 0, _ => 0
  | limit + 1, listed =>
      let own :=
        if apparent then if listed.entry.isDirectory then 0 else listed.size
        else listed.blocks
      listed.entry.entries.foldl
        (fun sum (name, entry) =>
          sum + usage apparent limit
            ⟨NarrowText.ofString name, inDirectory listed.path (NarrowText.ofString name), entry⟩)
        own

/-- Tell how much space files and directories take up. -/
def du : Tool := fun _ tool arguments => do
  let found ← optionsOf tool 1
    [option 'a' "all", option 'b' "bytes", option 'c' "total", option 'h' "human-readable",
      option 'k' "kilobytes", option 's' "summarize", long "apparent-size",
      valued 'd' "max-depth"] true arguments
  let names := if found.operands.isEmpty then [['.']] else found.operands
  forAll names fun path => do
    match (← get).files.findSelf (NarrowText.toString path) with
    | .error fault => do
        complainWith tool "cannot access" path fault
        return false
    | .ok (_, entry) => do
        let size := usage (found.has "b") maxLevels ⟨path, path, entry⟩
        Work.printLines tool [Numeral.ofNat size ++ '\t' :: path]
        return true

end Tools
end SyntaxCensus
