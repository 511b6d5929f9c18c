import SyntaxCensus.Host.Text.Escapes
import SyntaxCensus.Host.Tools.Environment

/-!
# Commands from the input

The words or lines of the input as arguments of a command, which is started
as often as is needed.

Main definitions:

- `Item`: an argument that is read from the input.
- `Tools.readItems`: the arguments in a text.
- `Tools.xargs`: a command with the arguments that are read.
-/

namespace SyntaxCensus
namespace Tools

/-! ## Reading -/

/-- An argument that is read from the input; `endsLine` says that it is the
last one of its line. -/
structure Item where
  text : NarrowText
  endsLine : Bool
  deriving DecidableEq, Repr

/-- How far the input has been read. -/
inductive Reading where
  | between
  | inWord
  | quotes (mark : Char)
  | escaped
  deriving DecidableEq, Repr

/-- What is said about a quotation mark that is not closed. -/
def unmatched (mark : Char) : NarrowText :=
  (if mark = '"' then "unmatched double quote" else "unmatched single quote").toList ++
    "; by default quotes are special to xargs unless you use the -0 option".toList

/-- Arguments with another one behind them, as long as it may be empty. -/
def closeWord (word : Option NarrowText) (endsLine : Bool) (items : List Item) : List Item :=
  match word with
  | none => items
  | some letters => ⟨letters.reverse, endsLine⟩ :: items

/-- The arguments in a text, and the fault that ends them.  `whole` says that
each line is one argument; `before` is the character in front, `word` is what
is begun, and `items` what is found, both in reverse. -/
def readItems (whole : Bool) (reading : Reading) (before : Char) (word : Option NarrowText)
    (items : List Item) : NarrowText → List Item × Option NarrowText
  | [] =>
      match reading, word with
      | .quotes mark, some (_ :: _) => (items.reverse, some (unmatched mark))
      | .quotes _, _ => (items.reverse, none)
      | _, _ => ((closeWord word false items).reverse, none)
  | c :: rest =>
      let add (letter : Char) : Option NarrowText := some (letter :: word.getD [])
      match reading with
      | .quotes mark =>
          if c = '\n' then (items.reverse, some (unmatched mark))
          else if c = mark then readItems whole .inWord c (some (word.getD [])) items rest
          else readItems whole (.quotes mark) c (add c) items rest
      | .escaped => readItems whole .inWord c (add c) items rest
      | reading =>
          if reading = .between ∧ Numeral.isSpace c = true then
            readItems whole .between c none items rest
          else if c = '\n' then
            let endsLine := before ≠ ' ' && before ≠ '\t'
            readItems whole .between c none (closeWord word endsLine items) rest
          else if !whole && Numeral.isSpace c then
            readItems whole .between c none (closeWord word false items) rest
          else if c = '\\' then readItems whole .escaped c (some (word.getD [])) items rest
          else if c = '"' ∨ c = '\'' then
            readItems whole (.quotes c) c (some (word.getD [])) items rest
          else readItems whole .inWord c (add c) items rest

/-- The arguments between marks. -/
def markedItems (mark : Char) (text : NarrowText) : List Item :=
  (linesOf mark text).map fun text => ⟨text, true⟩

/-! ## Groups -/

/-- How many arguments go together. -/
structure Grouping where
  most : Option Nat
  lines : Option Nat
  size : Nat

/-- The space that arguments take up. -/
def spaceOf (words : List NarrowText) : Nat :=
  words.foldl (fun size word => size + word.length + 1) 0

/-- A group that is begun: its arguments in reverse, their size, and the number
of their lines. -/
structure Group where
  reversed : List NarrowText := []
  space : Nat := 0
  lines : Nat := 0

namespace Group

/-- The group with an argument more. -/
def add (group : Group) (item : Item) : Group where
  reversed := item.text :: group.reversed
  space := group.space + item.text.length + 1
  lines := if item.endsLine then group.lines + 1 else group.lines

/-- There is no room for an argument in the group. -/
def lacksRoom (grouping : Grouping) (group : Group) (item : Item) : Bool :=
  !group.reversed.isEmpty && decide (grouping.size < group.space + item.text.length + 1)

/-- The group takes no more arguments. -/
def isFull (grouping : Grouping) (group : Group) : Bool :=
  grouping.most.any (fun most => decide (most ≤ group.reversed.length)) ||
    grouping.lines.any fun most => decide (most ≤ group.lines)

/-- The group on top of those before it, unless it is empty. -/
def onto (group : Group) (done : List (List NarrowText)) : List (List NarrowText) :=
  if group.reversed.isEmpty then done else group.reversed.reverse :: done

end Group

/-- The groups that are done, the last one first, and the one that is begun. -/
abbrev Arranged := List (List NarrowText) × Group

/-- The groups with the one that is begun closed. -/
def Arranged.close (arranged : Arranged) : Arranged :=
  (arranged.2.onto arranged.1, {})

/-- The groups with the one that is begun closed if something holds. -/
def Arranged.closeIf (holds : Bool) (arranged : Arranged) : Arranged :=
  if holds then arranged.close else arranged

/-- The groups with an argument in the one that is begun. -/
def Arranged.put (arranged : Arranged) (item : Item) : Arranged :=
  (arranged.1, arranged.2.add item)

/-- The groups with an argument more. -/
def Arranged.add (grouping : Grouping) (arranged : Arranged) (item : Item) : Arranged :=
  let after := (arranged.closeIf (arranged.2.lacksRoom grouping item)).put item
  after.closeIf (after.2.isFull grouping)

/-- Arguments in groups. -/
def groups (grouping : Grouping) (items : List Item) : List (List NarrowText) :=
  let arranged : Arranged := items.foldl (Arranged.add grouping) ([], {})
  arranged.close.1.reverse

/-- A text in which each occurrence of another one is replaced; at most `limit`
steps. -/
def replaceAll (old new : NarrowText) : Nat → NarrowText → NarrowText
  | 0, text => text
  | _, [] => []
  | limit + 1, c :: rest =>
      if !old.isEmpty && old.isPrefixOf (c :: rest) then
        new ++ replaceAll old new limit ((c :: rest).drop old.length)
      else c :: replaceAll old new limit rest

/-! ## The tool -/

/-- The space for a command and its arguments. -/
def commandSpace : Nat := 131072

/-- Run commands one after the other.  The status tells whether one of them
failed; some endings end everything. -/
def runCommands (start : Starter) (tool : NarrowText) (traces : Bool) (status : Nat) :
    List (List NarrowText) → Work Nat
  | [] => return status
  | words :: rest => do
      let name := words.headD []
      if traces then
        Work.printDiagnostic ([' '].intercalate (words.map (Shown.word false)))
      let before := (← get).descriptors
      Work.onProcess fun s => s.bindTo 0 .nowhere
      let ending ← Work.call start words
      Work.onProcess fun s => { s with descriptors := before }
      match ending with
      | .error fault => do
          Work.complain tool (name ++ ": ".toList ++ fault.description.toList)
          return startStatus fault
      | .ok (.exited 0) => runCommands start tool traces status rest
      | .ok (.exited 255) => do
          Work.complain tool (name ++ ": exited with status 255; aborting".toList)
          return 124
      | .ok (.exited _) => runCommands start tool traces 123 rest
      | .ok (.killed signal _) => do
          Work.complain tool (name ++ ": terminated by signal ".toList ++ Numeral.ofNat signal)
          return 125

/-- The number that is the value of an option. -/
def countOf (tool : NarrowText) (found : Found) (key : String) : Work (Option Nat) := do
  match found.value? key with
  | none => return none
  | some text =>
      match Numeral.integer? Numeral.decimal? text with
      | none =>
          misuse tool 1 ("invalid number \"".toList ++ text ++ "\" for -".toList ++
            key.toList ++ " option".toList)
      | some value => do
          if value < 1 then
            misuse tool 1 ("value ".toList ++ text ++ " for -".toList ++ key.toList ++
              " option should be >= 1".toList)
          return some value.toNat

/-- Start a command with arguments that are read. -/
def xargs : Tool := fun start tool arguments => do
  let perhaps (letter : Char) (name : String) : KnownOption :=
    ⟨String.singleton letter, some letter, some name, .perhaps⟩
  let found ← optionsOf tool 1
    [option '0' "null", valued 'a' "arg-file", valued 'd' "delimiter", valued 'E' "eof-str",
      perhaps 'e' "eof", ⟨"I", some 'I', none, .always⟩, perhaps 'i' "replace",
      ⟨"L", some 'L', none, .always⟩, perhaps 'l' "max-lines", valued 'n' "max-args",
      option 'o' "open-tty", valued 'P' "max-procs", option 'p' "interactive",
      option 'r' "no-run-if-empty", valued 's' "max-chars", option 't' "verbose",
      option 'x' "exit"] false arguments
  let command := if found.operands.isEmpty then ["echo".toList] else found.operands
  let most ← countOf tool found "n"
  let lines ← countOf tool found "L"
  let size ← countOf tool found "s"
  let lines :=
    match lines, found.value? "l" with
    | none, some text => some ((Numeral.natural? text).getD 1)
    | lines, _ => lines
  let replaced :=
    match found.lastOf ["I", "i"], found.value? "I", found.value? "i" with
    | some "I", some pattern, _ => some pattern
    | some "i", _, some pattern => some (if pattern.isEmpty then ['\x7b', '\x7d'] else pattern)
    | _, _, _ => none
  let source ←
    match found.value? "a" with
    | none => Work.takeAll 0
    | some path => do pure ((← get).readFile path)
  let text ←
    match source with
    | .ok text => pure text
    | .error fault => do
        let name := (found.value? "a").getD ['-']
        Work.fail tool 1 ("Cannot open input file ".toList ++ Work.quoted name ++ ": ".toList ++
          fault.description.toList)
  let mark? ←
    match found.lastOf ["0", "d"], found.value? "d" with
    | some "0", _ => pure (some (Char.ofNat 0))
    | some "d", some [c] => pure (some c)
    | some "d", some ('\\' :: escape) =>
        pure (some (((EscapeStyle.extended.read escape).1).headD '\\'))
    | some "d", some text =>
        Work.fail tool 1 ("Invalid input delimiter specification ".toList ++ text ++
          (": the delimiter must be either a single character or an escape sequence " ++
            "starting with \\.").toList)
    | _, _ => pure none
  let (items, fault) :=
    match mark? with
    | some mark => (markedItems mark text, none)
    | none => readItems replaced.isSome .between '\n' none [] text
  let items :=
    match found.value? "E" with
    | some ending =>
        if ending.isEmpty then items else items.takeWhile fun item => item.text ≠ ending
    | none => items
  let commands :=
    match replaced with
    | some pattern =>
        items.map fun item =>
          command.map fun word => replaceAll pattern item.text word.length word
    | none =>
        let room := size.getD commandSpace - spaceOf command
        let grouping : Grouping :=
          match found.lastOf ["n", "L", "l"] with
          | some "n" => ⟨most, none, room⟩
          | some _ => ⟨none, lines, room⟩
          | none => ⟨none, none, room⟩
        match groups grouping items with
        | [] => if found.has "r" || fault.isSome then [] else [command]
        | all => all.map fun group => command ++ group
  match fault with
  | none => pure ()
  | some problem => Work.complain tool problem
  let status ← runCommands start tool (found.has "t") 0 commands
  return if fault.isSome then 1 else status

end Tools
end SyntaxCensus
