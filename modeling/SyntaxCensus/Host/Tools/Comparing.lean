import SyntaxCensus.Host.Tools.Entries

/-!
# Comparing texts

The tools that tell where two texts differ, octet by octet or line by line.

Main definitions:

- `Difference.edits`: a shortest way from one list of lines to another.
- `Tools.cmp`, `Tools.diff`: the tools.
-/

namespace SyntaxCensus

namespace Difference

/-! ## Lines -/

/-- A step on the way from one list of lines to another. -/
inductive Edit where
  | keep
  | remove
  | insert
  deriving DecidableEq, Repr

/-- How many lines at the beginning are the same in both lists. -/
def kept (same : NarrowText → NarrowText → Bool) : List NarrowText → List NarrowText → Nat
  | a :: as, b :: bs => if same a b then kept same as bs + 1 else 0
  | _, _ => 0

/-- The steps from one list of lines to the front of another with the number of
lines that they keep, for each front of the other. -/
abbrev Row := List (Nat × List Edit)

/-- The row for no lines: everything is inserted. -/
def firstRow (lines : List NarrowText) : Row :=
  (List.range (lines.length + 1)).map fun count => (0, List.replicate count .insert)

/-- The way that keeps more lines; of two that keep the same number the second
one. -/
def better (first second : Nat × List Edit) : Nat × List Edit :=
  if second.1 < first.1 then first else second

/-- The rest of a row for a line more: `left` is the way to the place before,
`corner` the way to the place before in the row above. -/
def restOfRow (same : NarrowText → NarrowText → Bool) (line : NarrowText)
    (left corner : Nat × List Edit) : List NarrowText → Row → Row
  | other :: others, above :: rest =>
      let removed := (above.1, Edit.remove :: above.2)
      let inserted := (left.1, Edit.insert :: left.2)
      let best :=
        if same line other then (corner.1 + 1, Edit.keep :: corner.2)
        else better removed inserted
      best :: restOfRow same line best above others rest
  | _, _ => []

/-- The row for a line more. -/
def nextRow (same : NarrowText → NarrowText → Bool) (others : List NarrowText) (row : Row)
    (line : NarrowText) : Row :=
  match row with
  | [] => []
  | corner :: rest =>
      let first := (corner.1, Edit.remove :: corner.2)
      first :: restOfRow same line first corner others rest

/-- A shortest way from one list of lines to another. -/
def edits (same : NarrowText → NarrowText → Bool) (first second : List NarrowText) : List Edit :=
  let front := kept same first second
  let row := (first.drop front).foldl (nextRow same (second.drop front))
    (firstRow (second.drop front))
  List.replicate front .keep ++ ((row.getLast?).map fun way => way.2.reverse).getD []

/-- A place where lines are taken out or put in: the numbers of the lines before
it, and the lines. -/
structure Change where
  first : Nat
  second : Nat
  removed : List NarrowText
  inserted : List NarrowText

/-- A change without lines. -/
def Change.isNothing (change : Change) : Bool :=
  change.removed.isEmpty && change.inserted.isEmpty

/-- The changes on a way from one list of lines to another; `open_` is the one
that may still go on. -/
def changes (open_ : Change) : List Edit → List NarrowText → List NarrowText → List Change
  | .keep :: edits, _ :: first, _ :: second =>
      let next : Change :=
        ⟨open_.first + open_.removed.length + 1, open_.second + open_.inserted.length + 1, [], []⟩
      (if open_.isNothing then [] else [open_]) ++ changes next edits first second
  | .remove :: edits, line :: first, second =>
      changes { open_ with removed := open_.removed ++ [line] } edits first second
  | .insert :: edits, first, line :: second =>
      changes { open_ with inserted := open_.inserted ++ [line] } edits first second
  | _, _, _ => if open_.isNothing then [] else [open_]

/-- The numbers of some lines behind a number of others. -/
def extent (before count : Nat) : NarrowText :=
  if count = 0 then Numeral.ofNat before
  else if count = 1 then Numeral.ofNat (before + 1)
  else Numeral.ofNat (before + 1) ++ ',' :: Numeral.ofNat (before + count)

/-- A line with a mark in front.  One without an end says so. -/
def marked (mark : NarrowText) (line : NarrowText) : NarrowText :=
  if line.getLast? = some '\n' then mark ++ line
  else mark ++ line ++ "\n\\ No newline at end of file\n".toList

/-- A change as it is shown. -/
def Change.shown (change : Change) : NarrowText :=
  let letter :=
    if change.inserted.isEmpty then 'd' else if change.removed.isEmpty then 'a' else 'c'
  extent change.first change.removed.length ++ letter ::
    extent change.second change.inserted.length ++ '\n' ::
    change.removed.flatMap (marked ['<', ' ']) ++
    (if letter = 'c' then "---\n".toList else []) ++
    change.inserted.flatMap (marked ['>', ' '])

end Difference

namespace Tools

/-! ## Octet by octet -/

/-- The place of the first octet that differs, with the octets. -/
def firstDifference : Nat → NarrowText → NarrowText → Option (Nat × Char × Char)
  | place, a :: as, b :: bs =>
      if a = b then firstDifference (place + 1) as bs else some (place, a, b)
  | _, _, _ => none

/-- All places where octets differ. -/
def allDifferences : Nat → NarrowText → NarrowText → List (Nat × Char × Char)
  | place, a :: as, b :: bs =>
      let others := allDifferences (place + 1) as bs
      if a = b then others else (place, a, b) :: others
  | _, _, _ => []

/-- End a tool that compares two files and is not used as it should be. -/
def misuseComparing {α : Type} (tool message : NarrowText) : Work α := do
  Work.complain tool message
  Work.complain tool (hint tool)
  Work.exit 2

/-- The options and operands of a tool that compares two files. -/
def comparingOptions (tool : NarrowText) (known : List KnownOption)
    (arguments : List NarrowText) : Work Found :=
  match findOptions known true arguments with
  | .ok found => return found
  | .error problem => misuseComparing tool problem

/-- The text of a file that is compared. -/
def comparedText (tool name : NarrowText) : Work NarrowText := do
  match ← Work.readNamed name with
  | .ok text => return text
  | .error fault =>
      Work.fail tool 2 (name ++ ": ".toList ++ fault.description.toList)

/-- The number of an octet in octal digits, with blanks in front. -/
def octalOctet (c : Char) : NarrowText :=
  let digits := Numeral.digits 8 false c.toNat
  List.replicate (3 - digits.length) ' ' ++ digits

/-- Tell where two texts differ first, or all places. -/
def cmp : Tool := fun _ tool arguments => do
  let found ← comparingOptions tool
    [option 'b' "print-bytes", option 'l' "verbose", valued 'n' "bytes", option 's' "quiet",
      ⟨"s", none, some "silent", .never⟩] arguments
  match found.operands with
  | [] => misuseComparing tool ("missing operand after ".toList ++ Work.quoted tool)
  | [first] | [first, []] => compare found first ['-']
  | [first, second] => compare found first second
  | _ :: _ :: third :: _ => misuseComparing tool ("extra operand ".toList ++ Work.quoted third)
where
  /-- Compare two files. -/
  compare (found : Found) (first second : NarrowText) : Work Nat := do
    let tool := "cmp".toList
    let limit := (found.value? "n").bind Numeral.natural?
    let cut (text : NarrowText) : NarrowText :=
      match limit with
      | some count => text.take count
      | none => text
    let a := cut (← comparedText tool first)
    let b := cut (← comparedText tool second)
    if a = b then return 0
    if found.has "s" then return 1
    match firstDifference 1 a b with
    | some (place, _, _) => do
        if found.has "l" then
          if a.length ≠ b.length then atEnd found first second a b
          let all := allDifferences 1 a b
          let width := (Numeral.ofNat (min a.length b.length)).length
          Work.print tool (all.flatMap fun (place, x, y) =>
            let number := Numeral.ofNat place
            List.replicate (width - number.length) ' ' ++ number ++ ' ' :: octalOctet x ++
              ' ' :: octalOctet y ++ ['\n'])
        else
          let line := (a.take (place - 1)).count '\n' + 1
          Work.print tool (first ++ ' ' :: second ++ " differ: char ".toList ++
            Numeral.ofNat place ++ ", line ".toList ++ Numeral.ofNat line ++ ['\n'])
    | none => atEnd found first second a b
    return 1
  /-- Say that one of two texts is the front of the other. -/
  atEnd (found : Found) (first second a b : NarrowText) : Work Unit := do
    let (name, text) := if a.length < b.length then (first, a) else (second, b)
    let lines := text.count '\n'
    let place : NarrowText :=
      if text.isEmpty then " which is empty".toList
      else
        " after byte ".toList ++ Numeral.ofNat text.length ++
          (if found.has "l" then []
          else if text.getLast? = some '\n' then ", line ".toList ++ Numeral.ofNat lines
          else ", in line ".toList ++ Numeral.ofNat (lines + 1))
    Work.complain "cmp".toList ("EOF on ".toList ++ name ++ place)

/-! ## Line by line -/

/-- A line as it is compared: letters may not be told apart, and blanks may not
count. -/
def comparedLine (found : Found) (line : NarrowText) : NarrowText :=
  let line := if found.has "i" then line.map Char.toLower else line
  let line := if found.has "w" then line.filter fun c => !Numeral.isSpace c else line
  if found.has "b" then squeezed line else line
where
  /-- A line with one blank for each stretch of them, and none at its end. -/
  squeezed (line : NarrowText) : NarrowText :=
    let words := (Text.stretches ' ' (line.map fun c => if Numeral.isSpace c then ' ' else c))
    let kept := words.filter fun word => !word.isEmpty
    (if (line.head?).any Numeral.isSpace then [' '] else []) ++ [' '].intercalate kept

/-- The path of a file that is compared with another one: in a directory it is
the one of the same name. -/
def comparedPath (fs : FileSystem) (path other : NarrowText) : NarrowText :=
  if fs.isDirectory (NarrowText.toString path) && other ≠ ['-'] then
    inDirectory path (lastName other)
  else path

/-- Tell in which lines two texts differ. -/
def diff : Tool := fun _ tool arguments => do
  let found ← comparingOptions tool
    [option 'q' "brief", option 's' "report-identical-files", option 'i' "ignore-case",
      option 'w' "ignore-all-space", option 'b' "ignore-space-change", option 'a' "text",
      option 'd' "minimal", long "normal", long "strip-trailing-cr"] arguments
  match found.operands with
  | [] => misuseComparing tool ("missing operand after ".toList ++ Work.quoted tool)
  | [first] => misuseComparing tool ("missing operand after ".toList ++ Work.quoted first)
  | [first, second] => do
      let fs := (← get).files
      let firstPath := comparedPath fs first second
      let secondPath := comparedPath fs second first
      let a ← comparedText tool firstPath
      let b ← comparedText tool secondPath
      let same (x y : NarrowText) : Bool :=
        decide (comparedLine found x = comparedLine found y)
      let lines := wholeLines a
      let others := wholeLines b
      let changes := Difference.changes ⟨0, 0, [], []⟩ (Difference.edits same lines others)
        lines others
      if changes.isEmpty then
        if found.has "s" then
          Work.print tool ("Files ".toList ++ firstPath ++ " and ".toList ++ secondPath ++
            " are identical\n".toList)
        return 0
      else if found.has "q" || a.contains (Char.ofNat 0) || b.contains (Char.ofNat 0) then
        let kind := if found.has "q" then "Files " else "Binary files "
        Work.print tool (kind.toList ++ firstPath ++ " and ".toList ++ secondPath ++
          " differ\n".toList)
        return if found.has "q" then 1 else 2
      else
        Work.print tool (changes.flatMap Difference.Change.shown)
        return 1
  | _ :: _ :: third :: _ => misuseComparing tool ("extra operand ".toList ++ Work.quoted third)

end Tools
end SyntaxCensus
