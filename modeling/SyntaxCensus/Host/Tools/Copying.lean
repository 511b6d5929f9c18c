import SyntaxCensus.Host.Tools.Options

/-!
# Copying text

Tools that write what they read, as it is or line by line.

Main definitions:

- `Tools.cat`, `Tools.tee`: copies.
- `Tools.head`, `Tools.tail`: the beginning and the end of a text.
- `Tools.tac`, `Tools.rev`, `Tools.nl`: lines in other forms.
-/

namespace SyntaxCensus
namespace Tools

/-! ## Whole texts -/

/-- How `cat` shows what it copies. -/
structure Showing where
  numbers : Bool
  filled : Bool
  ends : Bool
  tabs : Bool
  controls : Bool
  squeezes : Bool
  deriving DecidableEq, Repr

/-- A character as marks that can be seen. -/
def visible (c : Char) : NarrowText :=
  let n := c.toNat
  let low (m : Nat) : NarrowText :=
    if m < 32 then ['^', Char.ofNat (m + 64)] else if m = 127 then ['^', '?'] else [Char.ofNat m]
  if n < 128 then low n else 'M' :: '-' :: low (n - 128)

namespace Showing

/-- A character as it is shown. -/
def character (showing : Showing) (c : Char) : NarrowText :=
  if c = '\t' then if showing.tabs then ['^', 'I'] else [c]
  else if c = '\n' then [c]
  else if showing.controls then visible c
  else [c]

/-- The lines of a text as they are shown, from a number on; `blank` says that
the line before was empty. -/
def lines (showing : Showing) (number : Nat) (blank : Bool) :
    List NarrowText → NarrowText × Nat × Bool
  | [] => ([], number, blank)
  | line :: rest =>
      let isBlank := decide (line = ['\n'])
      if showing.squeezes && isBlank && blank then lines showing number blank rest
      else
        let counts := if showing.filled then !isBlank else showing.numbers
        let front :=
          if counts then
            let digits := Numeral.ofNat number
            List.replicate (6 - digits.length) ' ' ++ digits ++ ['\t']
          else []
        let body := line.flatMap fun c =>
          if c = '\n' && showing.ends then ['$', '\n'] else showing.character c
        let (others, last, blank) :=
          lines showing (if counts then number + 1 else number) isBlank rest
        (front ++ body ++ others, last, blank)

/-- Nothing is changed. -/
def isPlain (showing : Showing) : Bool :=
  showing = ⟨false, false, false, false, false, false⟩

end Showing

/-- Copy the input or files one after the other. -/
def cat : Tool := fun _ tool arguments => do
  let found ← optionsOf tool 1
    [option 'A' "show-all", option 'b' "number-nonblank", flag 'e', option 'E' "show-ends",
      option 'n' "number", option 's' "squeeze-blank", flag 't', option 'T' "show-tabs", flag 'u',
      option 'v' "show-nonprinting"] true arguments
  let showing : Showing :=
    { numbers := found.has "n"
      filled := found.has "b"
      ends := found.has "E" || found.has "A" || found.has "e"
      tabs := found.has "T" || found.has "A" || found.has "t"
      controls := found.has "v" || found.has "A" || found.has "e" || found.has "t"
      squeezes := found.has "s" }
  copy tool showing 1 false true (Work.orInput found.operands)
where
  /-- Copy the texts of names one after the other. -/
  copy (tool : NarrowText) (showing : Showing) (number : Nat) (blank fine : Bool) :
      List NarrowText → Work Nat
    | [] => return Work.statusOf fine
    | name :: rest => do
        match ← Work.readNamed name with
        | .error fault => do
            Work.complainAbout tool name fault
            copy tool showing number blank false rest
        | .ok text =>
            if showing.isPlain then do
              Work.print tool text
              copy tool showing number blank fine rest
            else do
              let (shown, number, blank) := showing.lines number blank (wholeLines text)
              Work.print tool shown
              copy tool showing number blank fine rest

/-- Copy the input to the output and to files. -/
def tee : Tool := fun _ tool arguments => do
  let found ← optionsOf tool 1
    [option 'a' "append", option 'i' "ignore-interrupts", flag 'p', longPerhaps "output-error"]
    true arguments
  let mode : Process.OpeningMode := if found.has "a" then .extend else .replace
  let mut numbers : List Nat := []
  let mut fine := true
  for name in found.operands do
    match (← get).opened mode name with
    | .ok (number, s) =>
        set s
        numbers := number :: numbers
    | .error fault =>
        Work.complainAbout tool name fault
        fine := false
  match ← Work.takeAll 0 with
  | .error fault => Work.fail tool 1 ("read error: ".toList ++ fault.description.toList)
  | .ok text => do
      Work.print tool text
      for number in numbers.reverse do
        modify fun s => (s.writeTo number ((s.streams[number]?).getD default) text).2
      return Work.statusOf fine

/-! ## Amounts -/

/-- A number with a letter that multiplies it. -/
def amount? (text : NarrowText) : Option Nat :=
  let digits := text.takeWhile Char.isDigit
  if digits.isEmpty then none
  else
    let value := Numeral.ofDigits 10 digits
    let unit (base : Nat) : Option Nat :=
      match text.dropWhile Char.isDigit with
      | 'b' :: _ => some 512
      | c :: _ =>
          match ['K', 'M', 'G', 'T', 'P', 'E'].findIdx? fun letter => letter = c.toUpper with
          | some i => some (Nat.rec 1 (fun _ product => product * base) (i + 1))
          | none => none
      | [] => none
    match text.dropWhile Char.isDigit with
    | [] => some value
    | ['b'] => some (value * 512)
    | [_] | [_, 'i', 'B'] => (unit 1024).map fun factor => value * factor
    | [_, 'B'] => (unit 1000).map fun factor => value * factor
    | _ => none

/-- A part of a text: a number of lines or octets, counted from its beginning,
from its end, or up to its end. -/
structure Extract where
  octets : Bool
  signed : Option Char
  count : Nat
  deriving DecidableEq, Repr

/-- What the value of an option asks for. -/
def extract? (octets : Bool) (value : NarrowText) : Option Extract :=
  match value with
  | '-' :: rest => (amount? rest).map fun count => ⟨octets, some '-', count⟩
  | '+' :: rest => (amount? rest).map fun count => ⟨octets, some '+', count⟩
  | rest => (amount? rest).map fun count => ⟨octets, none, count⟩

/-- How many characters the first lines of a text have, up to a number of line
ends. -/
def lengthUpTo (taken : Nat) : Nat → NarrowText → Nat
  | 0, _ => taken
  | _, [] => taken
  | count + 1, c :: rest =>
      if c = '\n' then lengthUpTo (taken + 1) count rest
      else lengthUpTo (taken + 1) (count + 1) rest

/-- The characters that are read at a time. -/
def blockSize : Nat := 1024

/-- How many characters are taken so that a number of them is reached, block by
block. -/
def wholeBlocks (size available : Nat) : Nat :=
  min available ((size + blockSize - 1) / blockSize * blockSize)

/-- The options of `head` and `tail` in an older form, where a number stands
behind the dash. -/
def modernize (arguments : List NarrowText) : List NarrowText :=
  match arguments with
  | ('-' :: c :: rest) :: others =>
      if c.isDigit then
        let digits := (c :: rest).takeWhile Char.isDigit
        match (c :: rest).dropWhile Char.isDigit with
        | [] => ['-', 'n'] :: digits :: others
        | ['c'] => ['-', 'c'] :: digits :: others
        | ['n'] | ['l'] => ['-', 'n'] :: digits :: others
        | ['f'] => ['-', 'n'] :: digits :: others
        | ['q'] => ['-', 'q'] :: ['-', 'n'] :: digits :: others
        | _ => arguments
      else arguments
  | _ => arguments

/-- What is asked of `head` or `tail`. -/
structure ExtractRequest where
  extract : Extract
  titled : Bool
  names : List NarrowText
  mark : Char

/-- What the arguments of `head` or `tail` ask for. -/
def extractRequest (tool : NarrowText) (further : List KnownOption) (arguments : List NarrowText) :
    Work ExtractRequest := do
  let found ← optionsOf tool 1
    ([valued 'n' "lines", valued 'c' "bytes", option 'q' "quiet", long "silent",
      option 'v' "verbose", option 'z' "zero-terminated"] ++ further) true (modernize arguments)
  let octets := decide (found.lastOf ["n", "c"] = some "c")
  let value := (if octets then found.value? "c" else found.value? "n").getD ['1', '0']
  match extract? octets value with
  | none =>
      Work.fail tool 1 ((if octets then "invalid number of bytes: ".toList
        else "invalid number of lines: ".toList) ++ Work.quoted value)
  | some extract => do
      let names := Work.orInput found.operands
      let titled :=
        match found.lastOf ["q", "silent", "v"] with
        | some "v" => true
        | some _ => false
        | none => decide (1 < names.length)
      return ⟨extract, titled, names, if found.has "z" then Char.ofNat 0 else '\n'⟩

/-- The title of a text. -/
def title (isFirst : Bool) (name : NarrowText) : NarrowText :=
  (if isFirst then [] else ['\n']) ++ "==> ".toList ++
    (if name = ['-'] then "standard input".toList else name) ++ " <==\n".toList

/-- The first part of a text. -/
def firstPart (extract : Extract) (text : NarrowText) : NarrowText :=
  if extract.octets then
    if extract.signed = some '-' then text.take (text.length - extract.count)
    else text.take extract.count
  else if extract.signed = some '-' then
    let lines := wholeLines text
    (lines.take (lines.length - extract.count)).flatten
  else text.take (lengthUpTo 0 extract.count text)

/-- The last part of a text. -/
def lastPart (extract : Extract) (text : NarrowText) : NarrowText :=
  if extract.octets then
    if extract.signed = some '+' then text.drop (extract.count - 1)
    else text.drop (text.length - extract.count)
  else
    let lines := wholeLines text
    if extract.signed = some '+' then (lines.drop (extract.count - 1)).flatten
    else (lines.drop (lines.length - extract.count)).flatten

/-- Write the first part of what can be read from a descriptor.  Input that is
not needed stays there as far as it has not been read with the rest. -/
def headInput (tool : NarrowText) (extract : Extract) : Work (Option SystemFault) := do
  let s ← get
  match s.left 0 with
  | .error fault => return some fault
  | .ok text => do
      let isEndless :=
        match s.stream? 0 with
        | some (_, .zeros) | some (_, .full) => true
        | _ => false
      let shown :=
        if isEndless && extract.octets then List.replicate extract.count (Char.ofNat 0)
        else firstPart extract text
      Work.print tool shown
      let isFile :=
        match s.stream? 0 with
        | some (_, .file _ _ _ _ _) => true
        | _ => false
      let taken :=
        if extract.signed = some '-' then text.length
        else if isFile || extract.octets then shown.length
        else wholeBlocks shown.length text.length
      Work.onProcess fun s => s.skip 0 taken
      return none

/-- Write the beginnings of texts. -/
def head : Tool := fun _ tool arguments => do
  let request ← extractRequest tool [] arguments
  let mut isFirst := true
  let mut fine := true
  for name in request.names do
    if name = ['-'] then
      if request.titled then Work.print tool (title isFirst name)
      match ← headInput tool request.extract with
      | none => pure ()
      | some fault =>
          Work.complain tool ("error reading ".toList ++ Work.quoted "standard input".toList ++
            ": ".toList ++ fault.description.toList)
          fine := false
      isFirst := false
    else
      let s ← get
      match s.opened .read name with
      | .error fault =>
          Work.complain tool ("cannot open ".toList ++ Work.quoted name ++
            " for reading: ".toList ++ fault.description.toList)
          fine := false
      | .ok (number, after) =>
          if request.titled then Work.print tool (title isFirst name)
          isFirst := false
          match after.leftOf ((after.streams[number]?).getD default) with
          | .error fault =>
              Work.complain tool ("error reading ".toList ++ Work.quoted name ++ ": ".toList ++
                fault.description.toList)
              fine := false
          | .ok text =>
              match (after.streams[number]?).getD default with
              | .zeros =>
                  Work.print tool (List.replicate request.extract.count (Char.ofNat 0))
              | _ => Work.print tool (firstPart request.extract text)
  return Work.statusOf fine

/-- Write the ends of texts. -/
def tail : Tool := fun _ tool arguments => do
  let arguments :=
    match arguments with
    | ('+' :: c :: rest) :: others =>
        if (c :: rest).all Char.isDigit then ['-', 'n'] :: ('+' :: c :: rest) :: others
        else arguments
    | _ => arguments
  let request ← extractRequest tool
    [option 'f' "follow", flag 'F', valued 's' "sleep-interval", longValued "pid"] arguments
  let mut isFirst := true
  let mut fine := true
  for name in request.names do
    match ← Work.readNamed name with
    | .error .isDirectory =>
        if request.titled then Work.print tool (title isFirst name)
        isFirst := false
        Work.complain tool ("error reading ".toList ++ Work.quoted name ++ ": ".toList ++
          SystemFault.isDirectory.description.toList)
        fine := false
    | .error fault =>
        Work.complain tool ("cannot open ".toList ++ Work.quoted name ++ " for reading: ".toList ++
          fault.description.toList)
        fine := false
    | .ok text =>
        if request.titled then Work.print tool (title isFirst name)
        isFirst := false
        Work.print tool (lastPart request.extract text)
  return Work.statusOf fine

/-! ## Lines in other forms -/

/-- Write the lines of texts in reverse order. -/
def tac : Tool := fun _ tool arguments => do
  let found ← optionsOf tool 1
    [option 'b' "before", option 'r' "regex", valued 's' "separator"] true arguments
  let (texts, fine) ← Work.readTexts tool (Work.orInput found.operands)
  for (_, text) in texts do
    Work.print tool (wholeLines text).reverse.flatten
  return Work.statusOf fine

/-- The octets of a character that begins with an octet. -/
def sizeOfCharacter (c : Char) : Nat :=
  if c.toNat < 0xC0 then 1 else if c.toNat < 0xE0 then 2 else if c.toNat < 0xF0 then 3 else 4

/-- Write the characters of each line in reverse order. -/
def rev : Tool := fun _ tool arguments => do
  let found ← optionsOf tool 1 [] true arguments
  let (texts, fine) ← Work.readTexts tool (Work.orInput found.operands)
  for (_, text) in texts do
    Work.print tool ((wholeLines text).flatMap fun line =>
      if line.getLast? = some '\n' then line.dropLast.reverse ++ ['\n'] else line.reverse)
  return Work.statusOf fine

/-- How `nl` numbers lines. -/
structure Numbering where
  all : Bool
  width : Nat
  separator : NarrowText
  step : Int
  zeros : Bool
  left : Bool

/-- Lines with numbers in front of them. -/
def Numbering.lines (numbering : Numbering) (number : Int) : List NarrowText → List NarrowText
  | [] => []
  | line :: rest =>
      let isBlank := line.isEmpty || line = ['\n']
      if numbering.all || !isBlank then
        let digits := Numeral.ofInt number
        let missing := numbering.width - digits.length
        let field :=
          if numbering.left then digits ++ List.replicate missing ' '
          else List.replicate missing (if numbering.zeros then '0' else ' ') ++ digits
        (field ++ numbering.separator ++ line) ::
          numbering.lines (number + numbering.step) rest
      else
        (List.replicate (numbering.width + numbering.separator.length) ' ' ++ line) ::
          numbering.lines number rest

/-- Write lines with numbers in front of them. -/
def nl : Tool := fun _ tool arguments => do
  let found ← optionsOf tool 1
    [valued 'b' "body-numbering", valued 'w' "number-width", valued 's' "number-separator",
      valued 'i' "line-increment", valued 'v' "starting-line-number", valued 'n' "number-format",
      valued 'h' "header-numbering", valued 'f' "footer-numbering", valued 'd' "section-delimiter",
      option 'p' "no-renumber", valued 'l' "join-blank-lines"] true arguments
  let number (key : String) (default : Int) : Int :=
    ((found.value? key).bind (Numeral.integer? Numeral.decimal?)).getD default
  let format := (found.value? "n").getD ['r', 'n']
  let numbering : Numbering :=
    { all := decide (found.value? "b" = some ['a'])
      width := (number "w" 6).toNat
      separator := (found.value? "s").getD ['\t']
      step := number "i" 1
      zeros := decide (format = ['r', 'z'])
      left := decide (format = ['l', 'n']) }
  let (texts, fine) ← Work.readTexts tool (Work.orInput found.operands)
  let lines := wholeLines (texts.flatMap Prod.snd)
  let shown := (numbering.lines (number "v" 1) lines).map fun line =>
    if line.getLast? = some '\n' then line else line ++ ['\n']
  Work.print tool shown.flatten
  return Work.statusOf fine

end Tools
end SyntaxCensus
