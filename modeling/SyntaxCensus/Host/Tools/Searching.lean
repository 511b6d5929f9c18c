import SyntaxCensus.Host.Text.Pattern
import SyntaxCensus.Host.Text.Posix
import SyntaxCensus.Host.Tools.Moving

/-!
# Searching in texts

A tool that shows the lines in which an expression occurs.

Main definitions:

- `Searcher`: what is sought, and how it may stand in a line.
- `Searcher.find?`: the first place of it from a place on.
- `Tools.grep`: the tool.
-/

namespace SyntaxCensus

/-- What is sought: one of some expressions, perhaps as whole words or as a
whole line. -/
structure Searcher where
  expressions : List Expression
  words : Bool
  lines : Bool
  inverted : Bool

namespace Searcher

/-- A place is one between a word and something else, or outside of words. -/
def isApart (text : Array Char) (extent : Extent) : Bool :=
  !Edge.wordBefore text extent.first && !Edge.wordAt text extent.last

/-- The best of the ends of an expression that begins at a place. -/
def endAt? (searcher : Searcher) (text : Array Char) (place : Nat) (expression : Expression) :
    Option Nat :=
  let ends := (expression.ends text ⟨place, []⟩).map Reached.place
  let good := ends.filter fun last =>
    if searcher.lines then place = 0 && last = text.size
    else !searcher.words || isApart text ⟨place, last⟩
  match good with
  | [] => none
  | first :: rest => some (rest.foldl max first)

/-- The best extent that begins at a place. -/
def extentAt? (searcher : Searcher) (text : Array Char) (place : Nat) : Option Extent :=
  searcher.expressions.foldl
    (fun best expression =>
      match searcher.endAt? text place expression, best with
      | none, best => best
      | some last, none => some ⟨place, last⟩
      | some last, some other => some ⟨place, max last other.last⟩)
    none

/-- The first place from one on, at most `limit` places. -/
def findSlowly? (searcher : Searcher) (text : Array Char) (place : Nat) : Nat → Option Extent
  | 0 => none
  | limit + 1 =>
      match searcher.extentAt? text place with
      | some extent => some extent
      | none => findSlowly? searcher text (place + 1) limit

/-- The first place where it is found, not before a place, and its longest
extent there. -/
def find? (searcher : Searcher) (text : Array Char) (place : Nat) : Option Extent :=
  if text.size < place then none
  else if searcher.lines then if place = 0 then searcher.extentAt? text 0 else none
  else if searcher.words then searcher.findSlowly? text place (text.size + 1 - place)
  else
    searcher.expressions.foldl
      (fun best expression =>
        match expression.find? text place, best with
        | none, best => best
        | some found, none => some found.extent
        | some found, some other =>
            if found.extent.first < other.first then some found.extent
            else if found.extent.first = other.first then
              some ⟨other.first, max found.extent.last other.last⟩
            else some other)
      none

/-- A line is one of those that are asked for. -/
def chosen (searcher : Searcher) (line : NarrowText) : Bool :=
  (searcher.find? line.toArray 0).isSome != searcher.inverted

/-- The extents in a text that are not empty, from a place on; at most `limit`
of them. -/
def occurrences (searcher : Searcher) (text : Array Char) (place : Nat) : Nat → List Extent
  | 0 => []
  | limit + 1 =>
      match searcher.find? text place with
      | none => []
      | some extent =>
          if extent.last ≤ extent.first then
            occurrences searcher text (extent.first + 1) limit
          else extent :: occurrences searcher text extent.last limit

end Searcher

namespace Tools

/-! ## What is shown -/

/-- How the lines that are found are shown. -/
structure SearchStyle where
  only : Bool
  numbers : Bool
  offsets : Bool
  names : Bool
  initialTab : Bool
  nameMark : Char
  lineMark : Char
  before : Nat
  after : Nat
  separated : Bool
  most : Option Nat

/-- A line with its number and the place where it begins. -/
structure NumberedLine where
  text : NarrowText
  number : Nat
  place : Nat

/-- Lines with their numbers and places. -/
def numbered (number place : Nat) : List NarrowText → List NumberedLine
  | [] => []
  | text :: rest => ⟨text, number, place⟩ :: numbered (number + 1) (place + text.length + 1) rest

namespace SearchStyle

/-- What stands in front of a line; the mark tells whether it was found. -/
def front (style : SearchStyle) (name : NarrowText) (mark : Char) (number place : Nat) :
    NarrowText :=
  (if style.names then name ++ [if style.nameMark = ':' then mark else style.nameMark] else []) ++
    (if style.numbers then Numeral.ofNat number ++ [mark] else []) ++
    (if style.offsets then Numeral.ofNat place ++ [mark] else []) ++
    (if style.initialTab && (style.names || style.numbers || style.offsets) then ['\t'] else [])

/-- A line that is shown. -/
def shown (style : SearchStyle) (name : NarrowText) (mark : Char) (line : NumberedLine) :
    NarrowText :=
  style.front name mark line.number line.place ++ line.text ++ [style.lineMark]

/-- The parts of a line that were found. -/
def shownParts (style : SearchStyle) (searcher : Searcher) (name : NarrowText)
    (line : NumberedLine) : NarrowText :=
  let text := line.text.toArray
  (searcher.occurrences text 0 (text.size + 1)).flatMap fun extent =>
    style.front name ':' line.number (line.place + extent.first) ++
      (text.extract extent.first extent.last).toList ++ [style.lineMark]

end SearchStyle

/-- How far a text was searched: the lines before that may still be shown, the
last one first, how many are to be shown yet, whether lines were left out since
something was shown, how many were found, and what is shown, in reverse. -/
structure Progress where
  held : List NumberedLine := []
  trailing : Nat := 0
  gap : Bool := false
  begun : Bool := false
  count : Nat := 0
  pieces : List NarrowText := []

/-- Search lines one after the other. -/
def searchLines (searcher : Searcher) (style : SearchStyle) (name : NarrowText)
    (progress : Progress) : List NumberedLine → Progress
  | [] => progress
  | line :: rest =>
      let full := style.most.any fun most => decide (most ≤ progress.count)
      if full && progress.trailing = 0 then progress
      else if !full && searcher.chosen line.text then
        let contextual := style.before ≠ 0 || style.after ≠ 0
        let separator :=
          if contextual && style.separated && progress.begun &&
              (progress.gap || style.before < progress.held.length) then ["--\n".toList]
          else []
        let before :=
          if style.only then []
          else (progress.held.take style.before).reverse.map fun held => style.shown name '-' held
        let own :=
          if style.only then
            if searcher.inverted then [] else style.shownParts searcher name line
          else style.shown name ':' line
        searchLines searcher style name
          { held := []
            trailing := style.after
            gap := false
            begun := true
            count := progress.count + 1
            pieces := own :: (before.reverse ++ separator ++ progress.pieces) } rest
      else if progress.trailing ≠ 0 then
        let own := if style.only then [] else style.shown name '-' line
        searchLines searcher style name
          { progress with trailing := progress.trailing - 1, pieces := own :: progress.pieces } rest
      else
        searchLines searcher style name
          { progress with
            held := line :: progress.held.take style.before
            gap := progress.gap || decide (style.before ≤ progress.held.length) } rest

/-! ## Reading what is sought -/

/-- The notation of an expression. -/
inductive SearchNotation where
  | basic
  | extended
  | fixed
  deriving DecidableEq, Repr

/-- The expression that a text spells. -/
def soughtExpression (form : SearchNotation) (anyCase : Bool) (text : NarrowText) :
    Except NarrowText Expression :=
  let cased (expression : Expression) : Expression :=
    if anyCase then expression.anyCase else expression
  let isBareClass := decide (4 ≤ text.length) && text.take 2 = ['[', ':'] &&
    (text.drop (text.length - 2)) = [':', ']'] && !(text.drop 1).contains '['
  match form with
  | .fixed => .ok (cased (.ofText text))
  | form =>
      if isBareClass then
        .error "character class syntax is [[:space:]], not [:space:]".toList
      else
        match Posix.read (if form = .basic then .basic else .full) text with
        | .ok (expression, _) => .ok (cased expression)
        | .error fault => .error fault.message.toList

/-! ## Files -/

/-- The files below a directory that are searched, at most `limit` levels. -/
def filesBelow (takesFile takesDirectory : NarrowText → Bool) :
    Nat → NarrowText → Entry → List NarrowText
  | 0, _, _ => []
  | limit + 1, path, entry =>
      entry.entries.flatMap fun (name, inner) =>
        let name := NarrowText.ofString name
        let place := if path.isEmpty then name else inDirectory path name
        match inner with
        | .directory _ =>
            if takesDirectory name then filesBelow takesFile takesDirectory limit place inner
            else []
        | .file _ _ => if takesFile name then [place] else []
        | .link _ => []

/-- What the options for a search say. -/
def searchOptions : List KnownOption :=
  [option 'E' "extended-regexp", option 'F' "fixed-strings", option 'G' "basic-regexp",
    option 'P' "perl-regexp", valued 'e' "regexp", valued 'f' "file", option 'i' "ignore-case",
    flag 'y', long "no-ignore-case", option 'v' "invert-match", option 'w' "word-regexp",
    option 'x' "line-regexp", option 'c' "count", longPerhaps "color", longPerhaps "colour",
    option 'L' "files-without-match", option 'l' "files-with-matches", valued 'm' "max-count",
    option 'o' "only-matching", option 'q' "quiet", long "silent", option 's' "no-messages",
    option 'b' "byte-offset", option 'H' "with-filename", option 'h' "no-filename",
    longValued "label", option 'n' "line-number", option 'T' "initial-tab", option 'Z' "null",
    valued 'A' "after-context", valued 'B' "before-context", valued 'C' "context",
    option 'a' "text", longValued "binary-files", valued 'D' "devices", valued 'd' "directories",
    longValued "exclude", longValued "exclude-from", longValued "exclude-dir", flag 'I',
    longValued "include", option 'r' "recursive", option 'R' "dereference-recursive",
    long "line-buffered", option 'U' "binary", option 'z' "null-data",
    longValued "group-separator", long "no-group-separator"]

/-- Show the lines of texts in which an expression occurs. -/
def grepWith (form : SearchNotation) : Tool := fun _ tool arguments => do
  let arguments := arguments.flatMap fun word =>
    match word with
    | '-' :: c :: rest => if (c :: rest).all Char.isDigit then [['-', 'C'], c :: rest] else [word]
    | _ => [word]
  let usage : Work Unit := do
    Work.printDiagnostic ("Usage: ".toList ++ tool ++ " [OPTION]... PATTERNS [FILE]...".toList)
    Work.printDiagnostic (hint tool)
    Work.exit 2
  let found ←
    match findOptions searchOptions true arguments with
    | .ok found => pure found
    | .error problem => do
        Work.complain tool problem
        usage
        Work.exit 2
  let number (key : String) (words : String) : Work (Option Nat) :=
    match found.value? key with
    | none => pure none
    | some text =>
        match Numeral.integer? Numeral.decimal? text with
        | some value => pure (if value < 0 then none else some value.toNat)
        | none => Work.fail tool 2 (text ++ ": ".toList ++ words.toList)
  let context ← number "C" "invalid context length argument"
  let after ← number "A" "invalid context length argument"
  let before ← number "B" "invalid context length argument"
  let most ←
    match found.value? "m" with
    | none => pure none
    | some text =>
        match Numeral.integer? Numeral.decimal? text with
        | some value => pure (if value < 0 then none else some value.toNat)
        | none => Work.fail tool 2 "invalid max count".toList
  let mut patterns := (found.values "e").flatMap (Text.stretches '\n')
  for name in found.values "f" do
    match ← Work.readNamed name with
    | .ok text => patterns := patterns ++ linesOf '\n' text
    | .error fault => do
        Work.complainAbout tool name fault
        Work.exit 2
  let given := found.has "e" || found.has "f"
  let operands ←
    match given, found.operands with
    | true, operands => pure operands
    | false, first :: rest => do
        patterns := Text.stretches '\n' first
        pure rest
    | false, [] => do
        usage
        pure []
  let form :=
    match found.lastOf ["E", "F", "G", "P"] with
    | some "E" | some "P" => SearchNotation.extended
    | some "F" => .fixed
    | some "G" => .basic
    | _ => form
  let anyCase := (found.has "i" || found.has "y") && !found.has "no-ignore-case"
  let expressions ← patterns.mapM fun text =>
    match soughtExpression form anyCase text with
    | .ok expression => pure expression
    | .error problem => Work.fail tool 2 problem
  let searcher : Searcher :=
    { expressions, words := found.has "w", lines := found.has "x", inverted := found.has "v" }
  let quiet := found.has "q" || found.has "silent"
  let silent := found.has "s"
  let recursive := found.has "r" || found.has "R"
  let matchesAny (key : String) (name : NarrowText) : Bool :=
    (found.values key).any fun pattern => Pattern.fits pattern name
  let takesFile (name : NarrowText) : Bool :=
    (!found.has "include" || matchesAny "include" name) && !matchesAny "exclude" name
  let takesDirectory (name : NarrowText) : Bool := !matchesAny "exclude-dir" name
  let mut troubled := false
  let mut names : List NarrowText := []
  let roots := if operands.isEmpty then [if recursive then [] else ['-']] else operands
  for root in roots do
    let fs := (← get).files
    let place := if root.isEmpty then ['.'] else root
    match fs.find (NarrowText.toString place), recursive && root ≠ ['-'] with
    | .ok (_, .directory entries), true =>
        names := names ++ filesBelow takesFile takesDirectory maxLevels root (.directory entries)
    | _, _ => names := names ++ [root]
  let named :=
    match found.lastOf ["H", "h"] with
    | some "H" => true
    | some _ => false
    | none => recursive || 1 < operands.length
  let lineMark := if found.has "z" then Char.ofNat 0 else '\n'
  let nameEnd := if found.has "Z" then Char.ofNat 0 else '\n'
  let style : SearchStyle :=
    { only := found.has "o"
      numbers := found.has "n"
      offsets := found.has "b"
      names := named
      initialTab := found.has "T"
      nameMark := if found.has "Z" then Char.ofNat 0 else ':'
      lineMark
      before := (before.orElse fun _ => context).getD 0
      after := (after.orElse fun _ => context).getD 0
      separated := !found.has "no-group-separator"
      most }
  let listing := found.lastOf ["l", "L"]
  let isText := found.has "a" || found.has "U" || found.value? "binary-files" = some "text".toList
  let mut any := false
  for name in names do
    match ← Work.readNamed name with
    | .error fault => do
        troubled := true
        if !silent then Work.complain tool (name ++ ": ".toList ++ fault.description.toList)
    | .ok text => do
        let shownAs :=
          if name = ['-'] then (found.value? "label").getD "(standard input)".toList else name
        let binary := !isText && text.contains (Char.ofNat 0) && lineMark = '\n'
        let skipped := binary &&
          (found.has "I" || found.value? "binary-files" = some "without-match".toList)
        let lines := if skipped then [] else numbered 1 0 (linesOf lineMark text)
        let enough := quiet || listing.isSome || (binary && !found.has "c")
        let style := if enough then { style with most := some (min 1 (most.getD 1)) } else style
        let progress := searchLines searcher style shownAs {} lines
        if progress.count ≠ 0 then any := true
        if quiet then
          if progress.count ≠ 0 then Work.exit 0
        else
          match listing with
          | some key =>
              if (key = "l") = decide (progress.count ≠ 0) then
                Work.print tool (shownAs ++ [nameEnd])
          | none =>
              if found.has "c" then
                Work.print tool ((if named then shownAs ++ [style.nameMark] else []) ++
                  Numeral.ofNat progress.count ++ ['\n'])
              else if binary then
                if progress.count ≠ 0 then
                  Work.print tool (tool ++ ": ".toList ++ shownAs ++
                    ": binary file matches\n".toList)
              else Work.print tool progress.pieces.reverse.flatten
  return if troubled then 2 else Work.statusOf any

/-- Show the lines of texts in which an expression occurs. -/
def grep : Tool := grepWith .basic

/-- The same for expressions in extended notation. -/
def egrep : Tool := grepWith .extended

/-- The same for texts that are sought as they are. -/
def fgrep : Tool := grepWith .fixed

end Tools
end SyntaxCensus
