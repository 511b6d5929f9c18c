import SyntaxCensus.Host.Text.Escapes
import SyntaxCensus.Host.Tools.Options
import SyntaxCensus.Regex.CharacterSet

/-!
# Characters and columns

Tools that work on single characters or on parts of lines.

Main definitions:

- `Tools.tr`: characters in the place of others.
- `Tools.cut`, `Tools.paste`: parts of lines, and lines side by side.
- `Tools.fold`, `Tools.expand`: lines of a limited width, and blanks for tabs.
-/

namespace SyntaxCensus
namespace Tools

/-! ## Characters in the place of others -/

/-- A part of an array of characters: some characters, or one that is repeated,
perhaps as often as there is room. -/
inductive ArrayPart where
  | characters (class? : Option String) (text : NarrowText)
  | repeated (c : Char) (count : Option Nat)
  deriving DecidableEq, Repr

/-- The characters of an array that are still to be read: each with the mark
that a backslash stood before it. -/
def protectedCharacters : NarrowText → List (Char × Bool)
  | [] => []
  | '\\' :: c :: rest =>
      if Numeral.isDigitOf 8 c then
        match rest with
        | d :: e :: more =>
            let value := Numeral.ofDigits 8 [c, d, e]
            if Numeral.isDigitOf 8 d && Numeral.isDigitOf 8 e && decide (value < 256) then
              (Char.ofNat value, true) :: protectedCharacters more
            else if Numeral.isDigitOf 8 d then
              (Char.ofNat (Numeral.ofDigits 8 [c, d]), true) :: protectedCharacters (e :: more)
            else (Char.ofNat (Numeral.ofDigits 8 [c]), true) :: protectedCharacters (d :: e :: more)
        | [d] =>
            if Numeral.isDigitOf 8 d then [(Char.ofNat (Numeral.ofDigits 8 [c, d]), true)]
            else (Char.ofNat (Numeral.ofDigits 8 [c]), true) :: protectedCharacters [d]
        | [] => [(Char.ofNat (Numeral.ofDigits 8 [c]), true)]
      else
        let meaning := if c = 'e' then 'e' else (EscapeStyle.letter? c).getD c
        (meaning, true) :: protectedCharacters rest
  | c :: rest => (c, false) :: protectedCharacters rest

/-- The characters from one to another. -/
def charactersBetween (low high : Char) : NarrowText :=
  (List.range (high.toNat + 1 - low.toNat)).map fun i => Char.ofNat (low.toNat + i)

/-- Every octet as a character. -/
def allCharacters : NarrowText :=
  (List.range 256).map Char.ofNat

/-- The text between `[:` and `:]`, or between other such marks. -/
def bracketed? (mark : Char) (text : List (Char × Bool)) :
    Option (NarrowText × List (Char × Bool)) :=
  let inside := text.takeWhile fun entry => entry.1 ≠ mark
  match text.dropWhile fun entry => entry.1 ≠ mark with
  | _ :: (']', _) :: rest => some (inside.map Prod.fst, rest)
  | _ => none

/-- The parts of an array, at most `limit` of them. -/
def arrayParts : Nat → List (Char × Bool) → Except NarrowText (List ArrayPart)
  | 0, _ | _, [] => .ok []
  | limit + 1, ('[', false) :: (':', false) :: rest =>
      match bracketed? ':' rest with
      | none => others limit ('[', false) ((':', false) :: rest)
      | some (name, after) =>
          match CharacterSet.named? (String.ofList name) with
          | none => .error ("invalid character class ".toList ++ Work.quoted name)
          | some set =>
              (arrayParts limit after).map fun parts =>
                .characters (some (String.ofList name)) (allCharacters.filter set.contains) :: parts
  | limit + 1, ('[', false) :: ('=', false) :: rest =>
      match bracketed? '=' rest with
      | some ([c], after) =>
          (arrayParts limit after).map fun parts => .characters none [c] :: parts
      | _ => others limit ('[', false) (('=', false) :: rest)
  | limit + 1, ('[', false) :: (c, escaped) :: ('*', false) :: rest =>
      let digits := rest.takeWhile fun entry => entry.1.isDigit
      match rest.dropWhile fun entry => entry.1.isDigit with
      | (']', _) :: after =>
          let text := digits.map Prod.fst
          let base := if text.head? = some '0' then 8 else 10
          let count := Numeral.ofDigits base text
          (arrayParts limit after).map fun parts =>
            .repeated c (if count = 0 then none else some count) :: parts
      | _ => others limit ('[', false) ((c, escaped) :: ('*', false) :: rest)
  | limit + 1, first :: rest => others limit first rest
where
  /-- A range or a single character, and the parts behind it. -/
  others (limit : Nat) (first : Char × Bool) (rest : List (Char × Bool)) :
      Except NarrowText (List ArrayPart) :=
    match rest with
    | ('-', false) :: (high, _) :: after =>
        if high < first.1 then
          .error ("range-endpoints of '".toList ++ [first.1, '-', high] ++
            "' are in reverse collating sequence order".toList)
        else
          (arrayParts limit after).map fun parts =>
            .characters none (charactersBetween first.1 high) :: parts
    | after =>
        (arrayParts limit after).map fun parts => .characters none [first.1] :: parts

/-- The characters of parts, when there is room for a number of them. -/
def partCharacters (room : Nat) (parts : List ArrayPart) : NarrowText :=
  let fixed := parts.foldl
    (fun size part =>
      match part with
      | .characters _ text => size + text.length
      | .repeated _ count => size + count.getD 0)
    0
  parts.flatMap fun part =>
    match part with
    | .characters _ text => text
    | .repeated c (some count) => List.replicate count c
    | .repeated c none => List.replicate (room - fixed) c

/-- A text with the characters of an array changed to those of another one. -/
def translate (table : Array Char) (text : NarrowText) : NarrowText :=
  text.map fun c => table.getD c.toNat c

/-- A table that takes characters to others; of several entries the last one
counts. -/
def tableOf (first second : NarrowText) : Array Char :=
  (first.zip second).foldl (fun table (a, b) => table.setIfInBounds a.toNat b) allCharacters.toArray

/-- Which characters are in a text. -/
def membersOf (text : NarrowText) : Array Bool :=
  text.foldl (fun members c => members.setIfInBounds c.toNat true) (Array.replicate 256 false)

/-- A text in which characters of a set do not follow themselves. -/
def squeeze (members : Array Bool) (before : Option Char) : NarrowText → NarrowText
  | [] => []
  | c :: rest =>
      if before = some c && members.getD c.toNat false then squeeze members before rest
      else c :: squeeze members (some c) rest

/-- A second array as long as the first one, extended by its last character. -/
def extended (size : Nat) (text : NarrowText) : NarrowText :=
  match text.getLast? with
  | none => []
  | some last => text ++ List.replicate (size - text.length) last

/-- Change, squeeze or delete characters of the input. -/
def tr : Tool := fun _ tool arguments => do
  let found ← optionsOf tool 1
    [option 'c' "complement", flag 'C', option 'd' "delete", option 's' "squeeze-repeats",
      option 't' "truncate-set1"] false arguments
  let deletes := found.has "d"
  let squeezes := found.has "s"
  let complements := found.has "c" || found.has "C"
  let most := if deletes && !squeezes then 1 else 2
  let least := if deletes = squeezes then 2 else 1
  match found.operands with
  | [] => missingOperand tool none
  | first :: more => do
      if more.length + 1 < least then
        Work.complain tool ("missing operand after ".toList ++ Work.quoted first)
        Work.printDiagnostic
          (if deletes then "Two strings must be given when both deleting and squeezing repeats."
            else "Two strings must be given when translating.").toList
        Work.printDiagnostic (hint tool)
        Work.exit 1
      if most < more.length + 1 then
        let extra := more.getD (most - 1) []
        Work.complain tool ("extra operand ".toList ++ Work.quoted extra)
        if most = 1 then
          Work.printDiagnostic
            "Only one string may be given when deleting without squeezing repeats.".toList
        Work.printDiagnostic (hint tool)
        Work.exit 1
      let parts (text : NarrowText) : Work (List ArrayPart) :=
        match arrayParts text.length (protectedCharacters text) with
        | .ok parts => return parts
        | .error problem => Work.fail tool 1 problem
      let firstParts ← parts first
      let secondParts ← parts (more.headD [])
      let given := partCharacters 0 firstParts
      let one :=
        if complements then
          let members := membersOf given
          allCharacters.filter fun c => !members.getD c.toNat false
        else given
      let two := partCharacters one.length secondParts
      let text ←
        match ← Work.takeAll 0 with
        | .ok text => pure text
        | .error fault => Work.fail tool 1 ("read error: ".toList ++ fault.description.toList)
      let result ←
        if deletes then
          let members := membersOf one
          let kept := text.filter fun c => !members.getD c.toNat false
          pure (if squeezes then squeeze (membersOf two) none kept else kept)
        else if more.isEmpty then pure (squeeze (membersOf one) none text)
        else do
          if two.isEmpty && !found.has "t" then
            Work.fail tool 1 "when not truncating set1, string2 must be non-empty".toList
          let images := if found.has "t" then two else extended one.length two
          let changed := translate (tableOf one images) text
          pure (if squeezes then squeeze (membersOf two) none changed else changed)
      Work.print tool result
      return 0

/-! ## Parts of lines -/

/-- A stretch of positions, the first of which is one. -/
structure Stretch where
  first : Nat
  last : Option Nat
  deriving DecidableEq, Repr

/-- The stretches that a list names. -/
def stretches (kind : String) (list : NarrowText) : Except NarrowText (List Stretch) :=
  (Text.stretches ',' list).mapM fun part =>
    let low := part.takeWhile Char.isDigit
    let invalid : Except NarrowText Stretch :=
      if part.all fun c => c.isDigit || c = '-' then
        if part = ['-'] then .error "invalid range with no endpoint: -".toList
        else .error ("invalid ".toList ++
          (if kind = "field" then "field" else "byte/character").toList ++
          " range".toList)
      else
        .error ("invalid ".toList ++ (if kind = "field" then "field value " else
          "byte/character position ").toList ++ Work.quoted part)
    let zero : Except NarrowText Stretch :=
      .error ((if kind = "field" then "fields are numbered from 1" else
        "byte/character positions are numbered from 1").toList)
    match part.dropWhile Char.isDigit with
    | [] =>
        if low.isEmpty then zero
        else
          let n := Numeral.ofDigits 10 low
          if n = 0 then zero else .ok ⟨n, some n⟩
    | '-' :: high =>
        let n := if low.isEmpty then 1 else Numeral.ofDigits 10 low
        if low.isEmpty && high.isEmpty then invalid
        else if !high.all Char.isDigit then invalid
        else if n = 0 then zero
        else if high.isEmpty then .ok ⟨n, none⟩
        else
          let m := Numeral.ofDigits 10 high
          if m < n then .error "invalid decreasing range".toList else .ok ⟨n, some m⟩
    | _ => invalid

/-- A position is in one of some stretches. -/
def isChosen (chosen : List Stretch) (position : Nat) : Bool :=
  chosen.any fun stretch =>
    decide (stretch.first ≤ position) && stretch.last.all fun last => decide (position ≤ last)

/-- A position begins a run of positions that are chosen together. -/
def beginsRun (chosen : List Stretch) (position : Nat) : Bool :=
  chosen.any (fun stretch => stretch.first = position) &&
    !chosen.any fun stretch =>
      decide (stretch.first < position) && stretch.last.all fun last => decide (position ≤ last)

/-- The items at positions that satisfy a test, with their positions. -/
def itemsAt {α : Type} (test : Nat → Bool) (items : List α) : List (α × Nat) :=
  ((items.zip (List.range items.length)).filter fun entry => test (entry.2 + 1)).map fun entry =>
    (entry.1, entry.2 + 1)

/-- Write chosen parts of lines. -/
def cut : Tool := fun _ tool arguments => do
  let found ← optionsOf tool 1
    [valued 'b' "bytes", valued 'c' "characters", valued 'f' "fields", valued 'd' "delimiter",
      option 's' "only-delimited", longValued "output-delimiter", long "complement", flag 'n',
      option 'z' "zero-terminated"] true arguments
  let lists := found.values "b" ++ found.values "c" ++ found.values "f"
  if 1 < lists.length then misuse tool 1 "only one list may be specified".toList
  match lists with
  | [] => misuse tool 1 "you must specify a list of bytes, characters, or fields".toList
  | list :: _ => do
      let byField := found.has "f"
      let delimiter ←
        match found.value? "d" with
        | none => pure '\t'
        | some [] => pure (Char.ofNat 0)
        | some [c] => pure c
        | some _ => misuse tool 1 "the delimiter must be a single character".toList
      if !byField && found.has "d" then
        misuse tool 1 "an input delimiter may be specified only when operating on fields".toList
      if !byField && found.has "s" then
        misuse tool 1
          ("suppressing non-delimited lines makes sense\n\tonly when operating on fields").toList
      let chosen ←
        match stretches (if byField then "field" else "byte") list with
        | .ok chosen => pure chosen
        | .error problem => misuse tool 1 problem
      let test (position : Nat) : Bool := isChosen chosen position != found.has "complement"
      let begins (position : Nat) : Bool :=
        if found.has "complement" then test position && !test (position - 1)
        else beginsRun chosen position
      let mark := if found.has "z" then Char.ofNat 0 else '\n'
      let joint := (found.value? "output-delimiter").getD [delimiter]
      let line (text : NarrowText) : Option NarrowText :=
        if byField then
          if !text.contains delimiter then
            if found.has "s" then none else some text
          else
            some (joint.intercalate ((itemsAt test (Text.stretches delimiter text)).map Prod.fst))
        else
          let items := itemsAt test text
          match found.value? "output-delimiter" with
          | none => some (items.map Prod.fst)
          | some joint =>
              some ((items.zip (List.range items.length)).flatMap fun ((c, position), i) =>
                if i ≠ 0 && begins position then joint ++ [c] else [c])
      let (texts, fine) ← Work.readTexts tool (Work.orInput found.operands)
      for (_, text) in texts do
        Work.print tool (((linesOf mark text).filterMap line).flatMap fun text => text ++ [mark])
      return Work.statusOf fine

/-- The marks between columns, with their escapes replaced; none is written as
an escaped zero. -/
def columnMarks : NarrowText → List NarrowText
  | [] => []
  | '\\' :: c :: rest =>
      (if c = 'n' then ['\n'] else if c = 't' then ['\t'] else if c = '0' then [] else [c]) ::
        columnMarks rest
  | c :: rest => [c] :: columnMarks rest

/-- Texts with marks between them, which are used in turn. -/
def joinWith (marks : List NarrowText) (index : Nat) : List NarrowText → NarrowText
  | [] => []
  | [last] => last
  | first :: rest =>
      first ++ marks.getD (index % max 1 marks.length) [] ++ joinWith marks (index + 1) rest

/-- Lines side by side, as long as any column has one. -/
def sideBySide (marks : List NarrowText) (columns : List (List NarrowText)) :
    Nat → List NarrowText
  | 0 => []
  | limit + 1 =>
      if columns.all List.isEmpty then []
      else
        joinWith marks 0 (columns.map fun column => column.headD []) ::
          sideBySide marks (columns.map List.tail) limit

/-- Lines of texts side by side, or all lines of each text in one. -/
def paste : Tool := fun _ tool arguments => do
  let found ← optionsOf tool 1
    [valued 'd' "delimiters", option 's' "serial", option 'z' "zero-terminated"] true arguments
  let marks := columnMarks ((found.value? "d").getD ['\t'])
  let names := Work.orInput found.operands
  let mut columns : List (List NarrowText) := []
  for name in names do
    match ← Work.readNamed name with
    | .ok text => columns := columns ++ [linesOf '\n' text]
    | .error fault => do
        Work.complainAbout tool name fault
        Work.exit 1
  let inputs := (names.filter fun name => name = ['-']).length
  let input := ((names.zip columns).find? fun entry => entry.1 = ['-']).map Prod.snd
  let lines := columns.foldl (fun size column => max size column.length) 0
  if found.has "s" then
    Work.printLines tool (columns.map fun column => joinWith marks 0 column)
    return 0
  else if 1 < inputs then
    let all := (input.getD []).toArray
    let rounds := (all.size + inputs - 1) / inputs
    let dealt := (names.zip columns).foldl
      (fun (found : List (List NarrowText) × Nat) entry =>
        if entry.1 = ['-'] then
          (found.1 ++ [(List.range rounds).filterMap fun round => all[round * inputs + found.2]?],
            found.2 + 1)
        else (found.1 ++ [entry.2], found.2))
      ([], 0)
    Work.printLines tool (sideBySide marks dealt.1 (max lines rounds))
    return 0
  else
    Work.printLines tool (sideBySide marks columns lines)
    return 0

/-- The column behind a character. -/
def columnAfter (octets : Bool) (column : Nat) (c : Char) : Nat :=
  if octets then column + 1
  else if c = '\t' then column + 8 - column % 8
  else if c = '\x08' then column - 1
  else if c = '\r' then 0
  else column + 1

/-- The parts of a line that are no wider than is allowed.  `held` is the part
that is begun, in reverse; at most `limit` steps. -/
def foldLine (octets spaces : Bool) (width column : Nat) (held : NarrowText) :
    Nat → NarrowText → List NarrowText
  | 0, _ => [held.reverse]
  | _, [] => if held.isEmpty then [] else [held.reverse]
  | limit + 1, c :: rest =>
      let next := columnAfter octets column c
      if width < next && !held.isEmpty then
        if spaces && held.any fun d => d = ' ' || d = '\t' then
          let after := held.takeWhile fun d => d ≠ ' ' && d ≠ '\t'
          let before := held.dropWhile fun d => d ≠ ' ' && d ≠ '\t'
          before.reverse ::
            foldLine octets spaces width
              (after.reverse.foldl (columnAfter octets) 0) after limit (c :: rest)
        else held.reverse :: foldLine octets spaces width 0 [] limit (c :: rest)
      else foldLine octets spaces width next (c :: held) limit rest

/-- Break lines that are too wide. -/
def fold : Tool := fun _ tool arguments => do
  let arguments := arguments.map fun word =>
    match word with
    | '-' :: c :: rest => if c.isDigit then '-' :: 'w' :: c :: rest else word
    | _ => word
  let found ← optionsOf tool 1
    [valued 'w' "width", option 's' "spaces", option 'b' "bytes"] true arguments
  let width ←
    match found.value? "w" with
    | none => pure 80
    | some text =>
        match Numeral.natural? text with
        | some 0 | none =>
            Work.fail tool 1 ("invalid number of columns: ".toList ++ Work.quoted text)
        | some width => pure width
  let (texts, fine) ← Work.readTexts tool (Work.orInput found.operands)
  for (_, text) in texts do
    let parts := (Text.stretches '\n' text).map fun line =>
      ['\n'].intercalate
        (foldLine (found.has "b") (found.has "s") width 0 [] (4 * line.length + 4) line)
    Work.print tool (['\n'].intercalate parts)
  return Work.statusOf fine

/-- A line with blanks in the place of tabs. -/
def expandLine (size column : Nat) : NarrowText → NarrowText
  | [] => []
  | '\t' :: rest =>
      let count := size - column % size
      List.replicate count ' ' ++ expandLine size (column + count) rest
  | c :: rest => c :: expandLine size (if c = '\n' then 0 else column + 1) rest

/-- Put blanks in the place of tabs. -/
def expand : Tool := fun _ tool arguments => do
  let found ← optionsOf tool 1 [valued 't' "tabs", option 'i' "initial"] true arguments
  let size := max 1 (((found.value? "t").bind Numeral.natural?).getD 8)
  let (texts, fine) ← Work.readTexts tool (Work.orInput found.operands)
  for (_, text) in texts do Work.print tool (expandLine size 0 text)
  return Work.statusOf fine

end Tools
end SyntaxCensus
