import SyntaxCensus.Host.Text.Numeral
import SyntaxCensus.Host.Tools.Editing.Script
import SyntaxCensus.Text.Lines

/-!
# Running scripts that edit

Every line goes through all commands of a script; then it is printed, and what
was appended is printed behind it.

Main definitions:

- `Editing.Editor`: the line that is edited, the lines to come, and what was
  printed.
- `Editing.replace`: a text with matches replaced.
- `Editing.run`: all lines through a script.
-/

namespace SyntaxCensus
namespace Editing

/-! ## Input and output -/

/-- A line of the input: its text, whether a line end follows, and the name of
its file. -/
structure InputLine where
  text : NarrowText
  ended : Bool
  file : NarrowText

/-- Text that is written, in reverse, and whether the last line lacks its
end. -/
structure Channel where
  pieces : List NarrowText := []
  lacksEnd : Bool := false

/-- Write text that has its line ends. -/
def Channel.write (channel : Channel) (mark : Char) (text : NarrowText) : Channel :=
  { pieces := text :: (if channel.lacksEnd then [mark] :: channel.pieces else channel.pieces)
    lacksEnd := false }

/-- Write a line, whose end may be missing. -/
def Channel.line (channel : Channel) (mark : Char) (text : NarrowText) (ended : Bool) : Channel :=
  let written := channel.write mark text
  if ended then { written with pieces := [mark] :: written.pieces }
  else { written with lacksEnd := true }

/-- All text of a channel. -/
def Channel.text (channel : Channel) : NarrowText :=
  channel.pieces.reverse.flatten

/-- Text that is printed at the end of a cycle. -/
inductive Appended where
  | text (written : NarrowText)
  | file (name : NarrowText)
  | line (text : NarrowText) (ended : Bool)

/-! ## The editor -/

/-- How far a range of lines has been followed. -/
inductive RangeState where
  | outside
  | inside (last : Option Nat)
  | passed
  deriving DecidableEq, Repr, Inhabited

/-- What does not change while a script runs. -/
structure Setting where
  script : Script
  readFile : NarrowText → NarrowText
  mark : Char
  width : Nat

/-- The line that is edited, the lines to come, and what was printed. -/
structure Editor where
  pattern : NarrowText := []
  ended : Bool := true
  held : NarrowText := []
  number : Nat := 0
  file : NarrowText := ['-']
  coming : List InputLine
  ranges : Array RangeState
  lastExpression : Option Expression := none
  replaced : Bool := false
  appended : List Appended := []
  output : Channel := {}
  files : List (NarrowText × Channel) := []
  readers : List (NarrowText × List InputLine) := []

/-- Why a run ended: a status, or a fault. -/
inductive Outcome where
  | finished (status : Nat)
  | fault (message : NarrowText)
  deriving DecidableEq, Repr

/-- What comes after a command: another one, the end of the cycle, the
beginning of one with the same line, or the end of the run. -/
inductive Flow where
  | to (place : Nat)
  | endCycle (prints : Bool)
  | restart
  | quit (prints : Bool) (status : Nat)
  | fault (message : NarrowText)

namespace Editor

/-- Write to the output. -/
def emit (setting : Setting) (text : NarrowText) (editor : Editor) : Editor :=
  { editor with output := editor.output.write setting.mark text }

/-- Print the line that is edited. -/
def printLine (setting : Setting) (editor : Editor) : Editor :=
  { editor with
    output := editor.output.line setting.mark editor.pattern editor.ended }

/-- Write a line to a file. -/
def writeTo (setting : Setting) (name text : NarrowText) (ended : Bool) (editor : Editor) :
    Editor :=
  if name = "/dev/stdout".toList then
    { editor with output := editor.output.line setting.mark text ended }
  else
    { editor with
      files := editor.files.map fun (known, channel) =>
        if known = name then (known, channel.line setting.mark text ended) else (known, channel) }

/-- Print what was appended. -/
def flush (setting : Setting) (editor : Editor) : Editor :=
  let output := editor.appended.foldl
    (fun output appended =>
      match appended with
      | .text text => output.write setting.mark text
      | .line text ended => output.line setting.mark text ended
      | .file name =>
          let text := setting.readFile name
          if text.isEmpty then output else output.write setting.mark text)
    editor.output
  { editor with output, appended := [] }

/-- Take the next line. -/
def advance? (editor : Editor) : Option (InputLine × Editor) :=
  match editor.coming with
  | [] => none
  | line :: rest =>
      some (line,
        { editor with
          coming := rest, number := editor.number + 1, file := line.file, replaced := false })

/-- Append to what is printed at the end of the cycle. -/
def append (appended : Appended) (editor : Editor) : Editor :=
  { editor with appended := editor.appended ++ [appended] }

end Editor

/-! ## Conditions -/

/-- What an expression matches, and the editor that remembers it; an error if
there is none to remember. -/
def lastOr (expression : Option Expression) (editor : Editor) :
    Except NarrowText (Expression × Editor) :=
  match expression, editor.lastExpression with
  | some expression, _ => .ok (expression, { editor with lastExpression := some expression })
  | none, some expression => .ok (expression, editor)
  | none, none => .error "no previous regular expression".toList

/-- The present line is one that is asked for. -/
def isAt (address : Address) (editor : Editor) : Except NarrowText (Bool × Editor) :=
  match address with
  | .line number => .ok (editor.number = number, editor)
  | .last => .ok (editor.coming.isEmpty, editor)
  | .step first step =>
      .ok (if step = 0 then editor.number = first
        else decide (first ≤ editor.number) && (editor.number - first) % step = 0, editor)
  | .holding expression =>
      match lastOr expression editor with
      | .error problem => .error problem
      | .ok (expression, editor) => .ok (expression.occursIn editor.pattern, editor)

/-- The state of a range after its first line, and whether more lines follow. -/
def opened (ending : RangeEnd) (number : Nat) : RangeState :=
  let upTo (last : Nat) : RangeState := if last ≤ number then .passed else .inside (some last)
  match ending with
  | .found (.line last) => upTo last
  | .found _ => .inside none
  | .after count => upTo (number + count)
  | .multiple factor =>
      upTo (if factor = 0 then number else number + factor - number % factor)

/-- The present line is in a range, whose state is kept at a place. -/
def isInRange (place : Nat) (first : Address) (ending : RangeEnd) (editor : Editor) :
    Except NarrowText (Bool × Editor) := do
  let put (state : RangeState) (editor : Editor) : Editor :=
    { editor with ranges := editor.ranges.setIfInBounds place state }
  match editor.ranges.getD place .outside with
  | .inside last? =>
      match last?, ending with
      | some last, _ =>
          if editor.number < last then return (true, editor)
          else if editor.number = last then return (true, put .passed editor)
          else
            let (again, editor) ← isAt first (put .passed editor)
            return (again, if again then put (opened ending editor.number) editor else editor)
      | none, .found address =>
          let (ends, editor) ← isAt address editor
          return (true, if ends then put .passed editor else editor)
      | none, _ => return (true, editor)
  | _ =>
      let (begins, editor) ← isAt first editor
      if begins then return (true, put (opened ending editor.number) editor)
      else return (false, editor)

/-- The command at a place applies to the present line. -/
def applies (place : Nat) (command : Command) (editor : Editor) :
    Except NarrowText (Bool × Editor) := do
  let (holds, editor) ←
    match command.condition with
    | .always => pure (true, editor)
    | .one address => isAt address editor
    | .range first last => isInRange place first last editor
  return (holds != command.negated, editor)

/-! ## Substitutions -/

/-- How letters are changed: from now on, and for the next one. -/
structure Casing where
  lasting : CaseChange := .none
  once : Option CaseChange := none

/-- A text with its letters changed. -/
def Casing.apply (casing : Casing) (text : NarrowText) : NarrowText × Casing :=
  let changed :=
    match casing.lasting with
    | .upper => text.map Char.toUpper
    | .lower => text.map Char.toLower
    | _ => text
  match casing.once, changed with
  | some .upperNext, c :: rest => (c.toUpper :: rest, { casing with once := none })
  | some .lowerNext, c :: rest => (c.toLower :: rest, { casing with once := none })
  | _, changed => (changed, casing)

/-- What is put in the place of a match. -/
def filled (text : Array Char) (found : Expression.Match) (casing : Casing) :
    List Part → NarrowText
  | [] => []
  | .text written :: rest =>
      let (shown, casing) := casing.apply written
      shown ++ filled text found casing rest
  | .group number :: rest =>
      let extent := (found.group? number).getD ⟨0, 0⟩
      let (shown, casing) := casing.apply (text.extract extent.first extent.last).toList
      shown ++ filled text found casing rest
  | .change change :: rest =>
      match change with
      | .upperNext | .lowerNext =>
          filled text found { casing with once := some change } rest
      | lasting => filled text found { lasting, once := none } rest

/-- A text with matches replaced from a place on; at most `limit` matches are
looked at.  `count` is how many were found before, `last` the end of the one
before.  The flag says that something was replaced. -/
def replaceFrom (substitution : Substitution) (expression : Expression) (text : Array Char)
    (place count : Nat) (last : Option Nat) : Nat → NarrowText × Bool
  | 0 => ((text.extract place text.size).toList, false)
  | limit + 1 =>
      let rest := (text.extract place text.size).toList
      match expression.find? text place with
      | none => (rest, false)
      | some found =>
          let extent := found.extent
          let before := (text.extract place extent.first).toList
          let isEmpty := decide (extent.last ≤ extent.first)
          let own := (text.extract extent.first (extent.first + 1)).toList
          if isEmpty && last = some extent.first then
            let (more, done) :=
              replaceFrom substitution expression text (extent.first + 1) count none limit
            (before ++ own ++ more, done)
          else
            let next := if isEmpty then extent.first + 1 else extent.last
            let tail := if isEmpty then own else []
            let last := if isEmpty then none else some extent.last
            if count + 1 < substitution.number then
              let kept := (text.extract extent.first extent.last).toList
              let (more, done) :=
                replaceFrom substitution expression text next (count + 1) last limit
              (before ++ kept ++ tail ++ more, done)
            else
              let new := filled text found {} substitution.parts
              if substitution.everywhere then
                let (more, _) :=
                  replaceFrom substitution expression text next (count + 1) last limit
                (before ++ new ++ tail ++ more, true)
              else (before ++ new ++ tail ++ (text.extract next text.size).toList, true)

/-- A text with matches replaced, and whether there were any. -/
def replace (substitution : Substitution) (expression : Expression) (text : NarrowText) :
    NarrowText × Bool :=
  replaceFrom substitution expression text.toArray 0 0 none (text.length + 2)

/-! ## Commands -/

/-- A character as it is revealed. -/
def revealed (c : Char) : NarrowText :=
  match c with
  | '\\' => ['\\', '\\']
  | '\x07' => ['\\', 'a']
  | '\x08' => ['\\', 'b']
  | '\x0c' => ['\\', 'f']
  | '\n' => ['\\', 'n']
  | '\r' => ['\\', 'r']
  | '\t' => ['\\', 't']
  | '\x0b' => ['\\', 'v']
  | c =>
      let n := c.toNat
      if 32 ≤ n ∧ n < 127 then [c]
      else '\\' :: [n / 64, n / 8 % 8, n % 8].map (Numeral.digitOf false)

/-- A text as it is revealed, in lines of a width, which is not limited if it
is zero. -/
def revealedLines (width column : Nat) : NarrowText → NarrowText
  | [] => ['$', '\n']
  | c :: rest =>
      let shown := revealed c
      if width ≠ 0 ∧ width < column + shown.length + 1 then
        '\\' :: '\n' :: shown ++ revealedLines width shown.length rest
      else shown ++ revealedLines width (column + shown.length) rest

/-- The lines of a text. -/
def inputLines (mark : Char) (file text : NarrowText) : List InputLine :=
  match (Text.stretches mark text).reverse with
  | [] => []
  | last :: rest =>
      (rest.map fun text => (⟨text, true, file⟩ : InputLine)).reverse ++
        if last.isEmpty then [] else [⟨last, false, file⟩]

/-- Do what a command says that applies to the present line. -/
def perform (setting : Setting) (place : Nat) (command : Command) (editor : Editor) :
    Editor × Flow :=
  let go (editor : Editor) : Editor × Flow := (editor, .to (place + 1))
  let mark := setting.mark
  match command.action with
  | .enter _ | .nothing => go editor
  | .append text => go (editor.append (.text text))
  | .insert text => go (editor.emit setting text)
  | .change text =>
      let within :=
        match command.condition, editor.ranges.getD place .outside with
        | .range _ _, .inside _ => !command.negated
        | _, _ => false
      (if within then editor else editor.emit setting text, .endCycle false)
  | .jump time target =>
      let target := target.getD setting.script.commands.size
      match time with
      | .always => (editor, .to target)
      | .replaced =>
          if editor.replaced then ({ editor with replaced := false }, .to target) else go editor
      | .notReplaced =>
          if editor.replaced then go { editor with replaced := false } else (editor, .to target)
  | .delete => (editor, .endCycle false)
  | .deleteLine =>
      match editor.pattern.dropWhile (· ≠ mark) with
      | [] => (editor, .endCycle false)
      | _ :: rest => ({ editor with pattern := rest }, .restart)
  | .print => go (editor.printLine setting)
  | .printLine =>
      go { editor with
        output := editor.output.line mark (editor.pattern.takeWhile (· ≠ mark)) true }
  | .number => go (editor.emit setting (Numeral.ofNat editor.number ++ ['\n']))
  | .name => go (editor.emit setting (editor.file ++ ['\n']))
  | .hold => go { editor with held := editor.pattern }
  | .holdMore => go { editor with held := editor.held ++ mark :: editor.pattern }
  | .fetch => go { editor with pattern := editor.held }
  | .fetchMore => go { editor with pattern := editor.pattern ++ mark :: editor.held }
  | .exchange => go { editor with pattern := editor.held, held := editor.pattern }
  | .next =>
      if editor.coming.isEmpty then (editor, .quit true 0)
      else
        let editor := if setting.script.silent then editor else editor.printLine setting
        match (editor.flush setting).advance? with
        | none => (editor, .quit true 0)
        | some (line, editor) => go { editor with pattern := line.text, ended := line.ended }
  | .nextMore =>
      if editor.coming.isEmpty then (editor, .quit true 0)
      else
        match (editor.flush setting).advance? with
        | none => (editor, .quit true 0)
        | some (line, editor) =>
            go { editor with
              pattern := editor.pattern ++ mark :: line.text
              ended := line.ended }
  | .quit prints status => (editor, .quit prints status)
  | .reveal width =>
      go (editor.emit setting (revealedLines (width.getD setting.width) 0 editor.pattern))
  | .readFile name => go (editor.append (.file name))
  | .readLine name =>
      let lines :=
        match editor.readers.find? fun entry => entry.1 = name with
        | some (_, lines) => lines
        | none => inputLines mark name (setting.readFile name)
      let readers := (name, lines.tail) :: editor.readers.filter fun entry => entry.1 ≠ name
      match lines with
      | [] => go { editor with readers }
      | line :: _ => go ({ editor with readers }.append (.line line.text line.ended))
  | .writeFile name => go (editor.writeTo setting name editor.pattern editor.ended)
  | .writeLine name =>
      go (editor.writeTo setting name (editor.pattern.takeWhile (· ≠ mark)) true)
  | .substitute substitution =>
      match lastOr substitution.expression editor with
      | .error problem => (editor, .fault problem)
      | .ok (expression, editor) =>
          let (pattern, done) := replace substitution expression editor.pattern
          if !done then go editor
          else
            let editor := { editor with pattern, replaced := true }
            let editor := if substitution.prints then editor.printLine setting else editor
            match substitution.file with
            | none => go editor
            | some name => go (editor.writeTo setting name editor.pattern editor.ended)
  | .translate wanted images =>
      go { editor with
        pattern := editor.pattern.map fun c =>
          match wanted.findIdx? fun d => d = c with
          | some i => images.getD i c
          | none => c }
  | .clear => go { editor with pattern := [] }

/-! ## Cycles -/

/-- End a cycle: the line is printed, and then what was appended. -/
def endCycle (setting : Setting) (prints : Bool) (editor : Editor) : Editor :=
  let editor := if prints && !setting.script.silent then editor.printLine setting else editor
  editor.flush setting

/-- Go on at a place of the script, and with the lines that come; at most
`limit` commands. -/
def proceed (setting : Setting) (place : Nat) (editor : Editor) : Nat → Editor × Outcome
  | 0 => (editor, .finished 0)
  | limit + 1 =>
      let nextLine (editor : Editor) : Editor × Outcome :=
        match editor.advance? with
        | none => (editor, .finished 0)
        | some (line, editor) =>
            proceed setting 0
              { editor with pattern := line.text, ended := line.ended } limit
      match setting.script.commands[place]? with
      | none => nextLine (endCycle setting true editor)
      | some command =>
          match applies place command editor with
          | .error problem => (editor, .fault problem)
          | .ok (false, editor) =>
              let next :=
                match command.action with
                | .enter behind => behind
                | _ => place + 1
              proceed setting next editor limit
          | .ok (true, editor) =>
              match perform setting place command editor with
              | (editor, .to next) => proceed setting next editor limit
              | (editor, .endCycle prints) => nextLine (endCycle setting prints editor)
              | (editor, .restart) =>
                  proceed setting 0 (endCycle setting false editor) limit
              | (editor, .quit prints status) =>
                  (if prints then endCycle setting true editor else editor, .finished status)
              | (editor, .fault problem) => (editor, .fault problem)

/-- How many commands are done at most. -/
def maxSteps : Nat := 20000000

/-- The states of the ranges of a script before its first line. -/
def firstRanges (script : Script) : Array RangeState :=
  script.commands.map fun command =>
    match command.condition with
    | .range (.line 0) _ => .inside none
    | _ => .outside

/-- All lines through a script. -/
def run (setting : Setting) (editor : Editor) : Editor × Outcome :=
  match editor.advance? with
  | none => (editor, .finished 0)
  | some (line, editor) =>
      proceed setting 0 { editor with pattern := line.text, ended := line.ended } maxSteps

end Editing
end SyntaxCensus
