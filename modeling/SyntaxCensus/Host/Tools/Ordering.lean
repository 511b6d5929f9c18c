import SyntaxCensus.Host.Decimal.Ratio
import SyntaxCensus.Host.Tools.Options

/-!
# Lines in order

Tools that sort lines, compare neighbouring ones, and count.

Main definitions:

- `Tools.SortKey`: the part of a line by which it is sorted.
- `Tools.sort`, `Tools.uniq`, `Tools.comm`: sorted lines.
- `Tools.wc`: lines, words and octets of texts.
-/

namespace SyntaxCensus
namespace Tools

/-! ## Keys -/

/-- How keys are compared. -/
inductive KeyOrder where
  | text
  | numeric
  | general
  | human
  | month
  | version
  deriving DecidableEq, Repr

/-- What is regarded when keys are compared. -/
structure KeyStyle where
  order : KeyOrder := .text
  reverse : Bool := false
  anyCase : Bool := false
  dictionary : Bool := false
  printable : Bool := false
  skipsStart : Bool := false
  skipsEnd : Bool := false
  deriving DecidableEq, Repr

/-- The part of a line by which it is sorted: it begins in a field behind a
number of characters, and ends behind a field or some of its characters. -/
structure SortKey where
  firstField : Nat
  firstCharacter : Nat
  last : Option (Nat × Nat)
  style : Option KeyStyle
  deriving DecidableEq, Repr

/-- A blank between fields. -/
def isFieldBlank (c : Char) : Bool :=
  c = ' ' || c = '\t'

/-- A text without a number of fields at its beginning; `stays` says that the
separator behind the last of them is left. -/
def dropFields (separator : Option Char) (stays : Bool) : Nat → NarrowText → NarrowText
  | 0, text => text
  | count + 1, text =>
      match separator with
      | some mark =>
          match text.dropWhile (· ≠ mark) with
          | [] => []
          | c :: rest =>
              if count = 0 ∧ stays = true then c :: rest
              else dropFields separator stays count rest
      | none =>
          dropFields separator stays count
            ((text.dropWhile isFieldBlank).dropWhile fun c => !isFieldBlank c)

/-- The text of a key in a line. -/
def SortKey.text (separator : Option Char) (key : SortKey) (style : KeyStyle)
    (line : NarrowText) : NarrowText :=
  let start := dropFields separator false key.firstField line
  let start := if style.skipsStart then start.dropWhile isFieldBlank else start
  let start := start.drop key.firstCharacter
  match key.last with
  | none => start
  | some (field, character) =>
      let rest :=
        if character = 0 then dropFields separator true field line
        else
          let inside := dropFields separator false (field - 1) line
          let inside := if style.skipsEnd then inside.dropWhile isFieldBlank else inside
          inside.drop character
      start.take (start.length - rest.length)

/-- A number in front of a text, in thousandths of its last place. -/
structure KeyNumber where
  negative : Bool
  magnitude : Ratio

/-- The number in front of a text, zero if there is none. -/
def keyNumber (text : NarrowText) : KeyNumber :=
  let text := text.dropWhile isFieldBlank
  let (negative, body) :=
    match text with
    | '-' :: rest => (true, rest)
    | rest => (false, rest)
  let (digits, places, _) := Ratio.readDigits 10 body
  ⟨negative, ⟨Numeral.ofDigits 10 digits, Nat.pow 10 places⟩⟩

/-- The order of two magnitudes. -/
def compareRatios (a b : Ratio) : Ordering :=
  compare (a.numerator * b.denominator) (b.numerator * a.denominator)

/-- The order of two numbers with signs. -/
def compareSigned (aNegative bNegative : Bool) (a b : Ratio) : Ordering :=
  let aNegative := aNegative && a.numerator ≠ 0
  let bNegative := bNegative && b.numerator ≠ 0
  match aNegative, bNegative with
  | true, false => .lt
  | false, true => .gt
  | false, false => compareRatios a b
  | true, true => compareRatios b a

/-- The weight of the letter behind a number that people read. -/
def suffixWeight (text : NarrowText) : Nat :=
  let text := text.dropWhile isFieldBlank
  let body :=
    match text with
    | '-' :: rest => rest
    | rest => rest
  match (Ratio.readDigits 10 body).2.2 with
  | c :: _ =>
      match "KMGTPEZYRQ".toList.findIdx? fun letter => letter = c.toUpper with
      | some i => i + 1
      | none => 0
  | [] => 0

/-- The names of months. -/
def monthNames : List NarrowText :=
  ["JAN", "FEB", "MAR", "APR", "MAY", "JUN", "JUL", "AUG", "SEP", "OCT", "NOV", "DEC"].map
    String.toList

/-- The number of the month that a text begins with, zero if there is none. -/
def monthNumber (text : NarrowText) : Nat :=
  let name := ((text.dropWhile isFieldBlank).take 3).map Char.toUpper
  match monthNames.findIdx? fun month => month = name with
  | some i => i + 1
  | none => 0

/-- The order of texts by their octets. -/
def compareTexts : NarrowText → NarrowText → Ordering
  | [], [] => .eq
  | [], _ :: _ => .lt
  | _ :: _, [] => .gt
  | a :: as, b :: bs => if a = b then compareTexts as bs else compare a.toNat b.toNat

/-- The rank of a character in the names of versions. -/
def versionRank (c : Char) : Nat :=
  if c = '~' then 0 else if c.isAlpha then c.toNat + 1 else c.toNat + 300

/-- The order of texts by the numbers in them; at most `limit` steps. -/
def compareVersions : Nat → NarrowText → NarrowText → Ordering
  | 0, a, b => compareTexts a b
  | limit + 1, a, b =>
      match a, b with
      | [], [] => .eq
      | [], c :: _ => if c = '~' then .gt else .lt
      | c :: _, [] => if c = '~' then .lt else .gt
      | c :: as, d :: bs =>
          if c.isDigit && d.isDigit then
            let (x, as) := Numeral.takeDigits 10 (c :: as)
            let (y, bs) := Numeral.takeDigits 10 (d :: bs)
            match compare (Numeral.ofDigits 10 x) (Numeral.ofDigits 10 y) with
            | .eq => compareVersions limit as bs
            | other => other
          else if c = d then compareVersions limit as bs
          else if c.isDigit then .lt
          else if d.isDigit then .gt
          else compare (versionRank c) (versionRank d)

/-- The general number in front of a text; texts without one come first. -/
def generalNumber (text : NarrowText) : Option (Bool × Ratio) :=
  match FloatingNumber.read? 64 text with
  | some (.finite negative magnitude, _) => some (negative, magnitude)
  | some (.infinite negative, _) => some (negative, ⟨Nat.pow 10 5000, 1⟩)
  | _ => none

namespace KeyStyle

/-- The characters of a key that are regarded. -/
def regarded (style : KeyStyle) (text : NarrowText) : NarrowText :=
  let text :=
    if style.dictionary then text.filter fun c => c.isAlphanum || isFieldBlank c else text
  let text :=
    if style.printable then text.filter fun c => decide (32 ≤ c.toNat ∧ c.toNat < 127) else text
  if style.anyCase then text.map Char.toUpper else text

/-- The order of two keys. -/
def compare (style : KeyStyle) (a b : NarrowText) : Ordering :=
  let order :=
    match style.order with
    | .text => compareTexts (style.regarded a) (style.regarded b)
    | .numeric =>
        let x := keyNumber a
        let y := keyNumber b
        compareSigned x.negative y.negative x.magnitude y.magnitude
    | .human =>
        let x := keyNumber a
        let y := keyNumber b
        let rank (n : KeyNumber) (text : NarrowText) : Int :=
          if n.magnitude.numerator = 0 then 0
          else (if n.negative then -1 else 1) * (suffixWeight text + 1)
        match Ord.compare (rank x a) (rank y b) with
        | .eq => compareSigned x.negative y.negative x.magnitude y.magnitude
        | other => other
    | .general =>
        match generalNumber a, generalNumber b with
        | none, none => .eq
        | none, some _ => .lt
        | some _, none => .gt
        | some (p, x), some (q, y) => compareSigned p q x y
    | .month => Ord.compare (monthNumber a) (monthNumber b)
    | .version => compareVersions (a.length + b.length) a b
  if style.reverse then order.swap else order

/-- A style with what a letter asks for; `atEnd` says that the letter stands
behind the end of a key. -/
def withLetter (atEnd : Bool) (style : KeyStyle) : Char → Option KeyStyle
  | 'b' =>
      some (if atEnd then { style with skipsEnd := true } else { style with skipsStart := true })
  | 'd' => some { style with dictionary := true }
  | 'f' => some { style with anyCase := true }
  | 'g' => some { style with order := .general }
  | 'h' => some { style with order := .human }
  | 'i' => some { style with printable := true }
  | 'M' => some { style with order := .month }
  | 'n' => some { style with order := .numeric }
  | 'r' => some { style with reverse := true }
  | 'V' => some { style with order := .version }
  | _ => none

/-- A style with what some letters ask for. -/
def withLetters (atEnd : Bool) (style : KeyStyle) : NarrowText → Option KeyStyle
  | [] => some style
  | c :: rest => (style.withLetter atEnd c).bind fun style => style.withLetters atEnd rest

end KeyStyle

/-- A position in a key: a field, a character, and letters behind them. -/
def position? (text : NarrowText) : Option (Nat × Nat × NarrowText) :=
  match Numeral.decimal? text with
  | none => none
  | some (field, '.' :: rest) =>
      (Numeral.decimal? rest).map fun (character, after) => (field, character, after)
  | some (field, after) => some (field, 0, after)

/-- The key that a text spells. -/
def sortKey? (text : NarrowText) : Option SortKey :=
  let front := text.takeWhile (· ≠ ',')
  match position? front with
  | none => none
  | some (field, character, letters) =>
      if field = 0 then none
      else
        match KeyStyle.withLetters false {} letters with
        | none => none
        | some style =>
            let own (style : KeyStyle) (further : NarrowText) : Option KeyStyle :=
              if letters.isEmpty && further.isEmpty then none else some style
            match text.dropWhile (· ≠ ',') with
            | [] => some ⟨field - 1, character - 1, none, own style []⟩
            | _ :: back =>
                match position? back with
                | none => none
                | some (lastField, lastCharacter, further) =>
                    if lastField = 0 then none
                    else
                      (style.withLetters true further).map fun style =>
                        ⟨field - 1, character - 1, some (lastField, lastCharacter),
                          own style further⟩

/-! ## Sorting -/

/-- How lines are sorted. -/
structure Sorting where
  keys : List SortKey
  style : KeyStyle
  separator : Option Char
  stable : Bool
  unique : Bool

namespace Sorting

/-- The order of two lines by their keys only. -/
def compareKeys (sorting : Sorting) (a b : NarrowText) : Ordering :=
  sorting.keys.foldl
    (fun order key =>
      match order with
      | .eq =>
          let style := key.style.getD sorting.style
          style.compare (key.text sorting.separator style a) (key.text sorting.separator style b)
      | other => other)
    .eq

/-- The order of two lines. -/
def compare (sorting : Sorting) (a b : NarrowText) : Ordering :=
  let order :=
    if sorting.keys.isEmpty then sorting.style.compare a b else sorting.compareKeys a b
  match order with
  | .eq =>
      if sorting.stable || sorting.unique then .eq
      else
        let order := compareTexts a b
        if sorting.style.reverse then order.swap else order
  | other => other

/-- Lines in order; of equal ones only the first is kept if that is asked
for. -/
def sorted (sorting : Sorting) (lines : List NarrowText) : List NarrowText :=
  let all := lines.mergeSort fun a b => (sorting.compare a b).isLE
  if sorting.unique then
    (all.foldl
      (fun (kept : List NarrowText) line =>
        match kept with
        | last :: _ => if (sorting.compare last line).isEq then kept else line :: kept
        | [] => [line])
      []).reverse
  else all

/-- The first line that is not in order, with its number. -/
def disorder? (sorting : Sorting) (number : Nat) : List NarrowText → Option (Nat × NarrowText)
  | first :: second :: rest =>
      let order := sorting.compare first second
      if order.isGT || (sorting.unique && order.isEq) then some (number + 1, second)
      else disorder? sorting (number + 1) (second :: rest)
  | _ => none

end Sorting

/-- Sort the lines of texts. -/
def sort : Tool := fun _ tool arguments => do
  let found ← optionsOf tool 2
    [option 'b' "ignore-leading-blanks", option 'd' "dictionary-order", option 'f' "ignore-case",
      option 'g' "general-numeric-sort", option 'h' "human-numeric-sort",
      option 'i' "ignore-nonprinting", option 'M' "month-sort", option 'n' "numeric-sort",
      option 'r' "reverse", option 'V' "version-sort", option 'c' "check", flag 'C',
      valued 'k' "key", option 'm' "merge", valued 'o' "output", option 's' "stable",
      valued 'S' "buffer-size", valued 't' "field-separator", valued 'T' "temporary-directory",
      option 'u' "unique", option 'z' "zero-terminated", longValued "parallel"] true arguments
  let style := ("bdfghiMnrV".toList.filter fun c => found.has (String.singleton c)).foldl
    (fun style c => ((style.withLetter false c).bind fun s => s.withLetter true c).getD style)
    ({} : KeyStyle)
  let separator ←
    match found.value? "t" with
    | none => pure none
    | some [c] => pure (some c)
    | some ['\\', '0'] => pure (some (Char.ofNat 0))
    | some [] => Work.fail tool 2 "empty tab".toList
    | some text => Work.fail tool 2 ("multi-character tab ".toList ++ Work.quoted text)
  let keys ← (found.values "k").mapM fun text =>
    match sortKey? text with
    | some key => pure key
    | none =>
        Work.fail tool 2 ("invalid number at field start: invalid count at start of ".toList ++
          Work.quoted text)
  let sorting : Sorting :=
    { keys, style, separator, stable := found.has "s", unique := found.has "u" }
  let mark := if found.has "z" then Char.ofNat 0 else '\n'
  let mut lines : List NarrowText := []
  let names := Work.orInput found.operands
  for name in names do
    match ← Work.readNamed name with
    | .ok text => lines := lines ++ linesOf mark text
    | .error .isDirectory =>
        Work.fail tool 2 ("read failed: ".toList ++ Work.shownName name ++
          ": Is a directory".toList)
    | .error fault =>
        Work.fail tool 2 ("cannot read: ".toList ++ Work.shownName name ++ ": ".toList ++
          fault.description.toList)
  if found.has "c" || found.has "C" then
    match sorting.disorder? 1 lines with
    | none => return 0
    | some (number, line) => do
        if found.has "c" then
          Work.complain tool (names.headD [] ++ ":".toList ++ Numeral.ofNat number ++
            ": disorder: ".toList ++ line)
        return 1
  else do
    let result := (sorting.sorted lines).flatMap fun line => line ++ [mark]
    match found.value? "o" with
    | none => Work.print tool result
    | some path =>
        match (← get).opened .replace path with
        | .ok (number, s) =>
            set (s.writeTo number ((s.streams[number]?).getD default) result).2
        | .error fault =>
            Work.fail tool 2 ("open failed: ".toList ++ Work.shownName path ++ ": ".toList ++
              fault.description.toList)
    return 0

/-! ## Neighbours -/

/-- Runs of neighbouring lines that are equal in what is regarded. -/
def groupLines (key : NarrowText → NarrowText) : List NarrowText → List (List NarrowText)
  | [] => []
  | line :: rest =>
      match groupLines key rest with
      | (next :: group) :: others =>
          if key line = key next then (line :: next :: group) :: others
          else [line] :: (next :: group) :: others
      | others => [line] :: others

/-- A text without blanks and what follows them, a number of times. -/
def skipWords : Nat → NarrowText → NarrowText
  | 0, text => text
  | count + 1, text =>
      skipWords count ((text.dropWhile isFieldBlank).dropWhile fun c => !isFieldBlank c)

/-- A number in front of which there are blanks up to a width. -/
def padNumber (width number : Nat) : NarrowText :=
  let digits := Numeral.ofNat number
  List.replicate (width - digits.length) ' ' ++ digits

/-- Write one line for each run of equal ones. -/
def uniq : Tool := fun _ tool arguments => do
  let found ← optionsOf tool 1
    [option 'c' "count", option 'd' "repeated", flag 'D', option 'u' "unique",
      option 'i' "ignore-case", valued 'f' "skip-fields", valued 's' "skip-chars",
      valued 'w' "check-chars", option 'z' "zero-terminated"] true arguments
  let number (key : String) : Option Nat := (found.value? key).bind Numeral.natural?
  let key (line : NarrowText) : NarrowText :=
    let text := (skipWords ((number "f").getD 0) line).drop ((number "s").getD 0)
    let text := text.take ((number "w").getD text.length)
    if found.has "i" then text.map Char.toLower else text
  match found.operands with
  | _ :: _ :: extra :: _ => extraOperand tool extra
  | operands => do
      let name := operands.headD ['-']
      let text ←
        match ← Work.readNamed name with
        | .ok text => pure text
        | .error fault =>
            Work.fail tool 1 (Work.shownName name ++ ": ".toList ++ fault.description.toList)
      let mark := if found.has "z" then Char.ofNat 0 else '\n'
      let groups := (groupLines key (linesOf mark text)).filter fun group =>
        (!(found.has "d" || found.has "D") || decide (1 < group.length)) &&
          (!found.has "u" || decide (group.length = 1))
      let shown := groups.flatMap fun group =>
        if found.has "D" then group
        else
          let first := group.headD []
          [if found.has "c" then padNumber 7 group.length ++ ' ' :: first else first]
      let result := shown.flatMap fun line => line ++ [mark]
      match operands with
      | [_, output] =>
          match (← get).opened .replace output with
          | .ok (number, s) =>
              set (s.writeTo number ((s.streams[number]?).getD default) result).2
          | .error fault =>
              Work.fail tool 1 (Work.shownName output ++ ": ".toList ++ fault.description.toList)
      | _ => Work.print tool result
      return 0

/-- Lines of two sorted texts: those only in one, only in the other, or in
both, known by the numbers of their columns. -/
def compareLines : Nat → List NarrowText → List NarrowText → List (Nat × NarrowText)
  | 0, _, _ => []
  | _, [], second => second.map fun line => (2, line)
  | _, first, [] => first.map fun line => (1, line)
  | limit + 1, a :: as, b :: bs =>
      match compareTexts a b with
      | .lt => (1, a) :: compareLines limit as (b :: bs)
      | .gt => (2, b) :: compareLines limit (a :: as) bs
      | .eq => (3, a) :: compareLines limit as bs

/-- Compare the lines of two sorted texts. -/
def comm : Tool := fun _ tool arguments => do
  let found ← optionsOf tool 1
    [flag '1', flag '2', flag '3', longValued "output-delimiter", long "check-order",
      long "nocheck-order", long "total", option 'z' "zero-terminated"] true arguments
  match found.operands with
  | [] => missingOperand tool none
  | [one] => missingOperand tool (some one)
  | [one, two] => do
      let lines (name : NarrowText) : Work (List NarrowText) := do
        match ← Work.readNamed name with
        | .ok text => return linesOf '\n' text
        | .error fault =>
            Work.fail tool 1 (Work.shownName name ++ ": ".toList ++ fault.description.toList)
      let first ← lines one
      let second ← lines two
      let delimiter := (found.value? "output-delimiter").getD ['\t']
      let hidden (column : Nat) : Bool := found.has (toString column)
      let front (column : Nat) : NarrowText :=
        (([1, 2].filter fun other => decide (other < column) && !hidden other).map
          fun _ => delimiter).flatten
      let all := compareLines (first.length + second.length + 1) first second
      Work.printLines tool ((all.filter fun entry => !hidden entry.1).map fun entry =>
        front entry.1 ++ entry.2)
      return 0
  | _ :: _ :: extra :: _ => extraOperand tool extra

/-! ## Counts -/

/-- What is counted in a text. -/
structure Counts where
  lines : Nat := 0
  words : Nat := 0
  octets : Nat := 0
  longest : Nat := 0
  deriving DecidableEq, Repr

namespace Counts

/-- The counts of a text from a place on; `inside` says that the character
before it is part of a word. -/
def ofText (inside : Bool) (column : Nat) (counts : Counts) : NarrowText → Counts
  | [] => { counts with longest := max counts.longest column }
  | c :: rest =>
      let blank := Numeral.isSpace c
      let counts :=
        { counts with
          lines := if c = '\n' then counts.lines + 1 else counts.lines
          words := if !blank && !inside then counts.words + 1 else counts.words
          octets := counts.octets + 1 }
      if c = '\n' ∨ c = '\r' ∨ c = '\x0c' then
        ofText false 0 { counts with longest := max counts.longest column } rest
      else
        let column :=
          if c = '\t' then column + 8 - column % 8
          else if 32 ≤ c.toNat ∧ c.toNat < 127 then column + 1
          else column
        ofText (!blank) column counts rest

/-- The counts of two texts together. -/
def add (a b : Counts) : Counts :=
  ⟨a.lines + b.lines, a.words + b.words, a.octets + b.octets, max a.longest b.longest⟩

end Counts

/-- What lies behind a descriptor or a path: the size of a file, if it is
one. -/
def regularSize? (s : Process) (name : NarrowText) : Option Nat :=
  let streamSize (stream : Stream) : Option Nat :=
    match stream with
    | .file location _ _ _ _ => some (s.files.contentAt location).length
    | _ => none
  if name = ['-'] then (s.stream? 0).bind fun entry => streamSize entry.2
  else
    match s.opened .read name with
    | .ok (number, after) => (after.streams[number]?).bind streamSize
    | .error _ => none

/-- Count lines, words and octets. -/
def wc : Tool := fun _ tool arguments => do
  let found ← optionsOf tool 1
    [option 'c' "bytes", option 'm' "chars", option 'l' "lines", option 'w' "words",
      option 'L' "max-line-length", longValued "files0-from", longValued "total"] true arguments
  let any := ["c", "m", "l", "w", "L"].any found.has
  let shows (key : String) : Bool := found.has key || (!any && key ≠ "L" && key ≠ "m")
  let columns (counts : Counts) : List Nat :=
    (if shows "l" then [counts.lines] else []) ++ (if shows "w" then [counts.words] else []) ++
      (if shows "m" then [counts.octets] else []) ++ (if shows "c" then [counts.octets] else []) ++
      (if shows "L" then [counts.longest] else [])
  let names := Work.orInput found.operands
  let s ← get
  let sizes := names.map (regularSize? s)
  let known := (sizes.filterMap id).foldl (· + ·) 0
  let isMissing (name : NarrowText) : Bool :=
    name ≠ ['-'] && !s.files.exists? (NarrowText.toString name)
  let special := (names.zip sizes).any fun entry => entry.2.isNone && !isMissing entry.1
  let width :=
    if names.length = 1 && (columns {}).length = 1 then 1
    else max (Numeral.ofNat known).length (if special then 7 else 1)
  let line (counts : Counts) (name : Option NarrowText) : NarrowText :=
    [' '].intercalate ((columns counts).map (padNumber width)) ++
      (match name with
      | some name => ' ' :: name
      | none => []) ++ ['\n']
  let mut total : Counts := {}
  let mut fine := true
  for name in names do
    match ← Work.readNamed name with
    | .ok text =>
        let counts := Counts.ofText false 0 {} text
        total := total.add counts
        Work.print tool (line counts (if found.operands.isEmpty then none else some name))
    | .error fault =>
        Work.complainAbout tool name fault
        if fault = .isDirectory then Work.print tool (line {} (some name))
        fine := false
  if 1 < names.length then Work.print tool (line total (some "total".toList))
  return Work.statusOf fine

end Tools
end SyntaxCensus
