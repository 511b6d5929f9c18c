import SyntaxCensus.Host.Text.Posix
import SyntaxCensus.Host.Tools.Editing.Script
import SyntaxCensus.Text.Lines

/-!
# Reading scripts that edit

A script is read character by character; a fault tells how many of them were
read.

Main definitions:

- `Editing.Fault`: why a text is no script.
- `Editing.readDelimited`: the text up to a mark.
- `Editing.readCommands`: the commands of a text.
- `Editing.readScript`: a script in several texts.
-/

namespace SyntaxCensus
namespace Editing

/-- Why a text is no script, and how many characters were read. -/
inductive Fault where
  | at (place : Nat) (message : NarrowText)
  | general (message : NarrowText)
  deriving DecidableEq, Repr

/-- What is known of a script while it is read: the text that is left, how many
characters were read, the commands, the blocks that are open, labels with their
places, and jumps with theirs. -/
structure Source where
  rest : NarrowText
  place : Nat := 0
  extended : Bool
  silent : Bool := false
  commands : Array Command := #[]
  blocks : List (Nat × Command) := []
  labels : List (NarrowText × Nat) := []
  jumps : List (Nat × NarrowText) := []

/-- A step of reading. -/
abbrev Step (α : Type) := StateT Source (Except Fault) α

/-! ## Characters -/

/-- End with a fault at the present place. -/
def fail {α : Type} (message : String) : Step α := do
  throw (.at (← get).place message.toList)

/-- Take the next character. -/
def next? : Step (Option Char) :=
  modifyGet fun source =>
    match source.rest with
    | [] => (none, source)
    | c :: rest => (some c, { source with rest, place := source.place + 1 })

/-- Look at the next character. -/
def peek? : Step (Option Char) := do
  return (← get).rest.head?

/-- Take a number of characters. -/
def skip (count : Nat) : Step Unit :=
  modify fun source =>
    { source with
      rest := source.rest.drop count
      place := source.place + min count source.rest.length }

/-- Take characters as long as they satisfy a test. -/
def takeWhile (test : Char → Bool) : Step NarrowText := do
  let found := (← get).rest.takeWhile test
  skip found.length
  return found

/-- A blank within a line. -/
def isBlank (c : Char) : Bool :=
  c = ' ' || c = '\t'

/-- Pass blanks and take the next character. -/
def nextMark? : Step (Option Char) := do
  let _ ← takeWhile isBlank
  next?

/-- A number whose digits are in front. -/
def readNumber : Step Nat := do
  return Numeral.ofDigits 10 (← takeWhile Char.isDigit)

/-- The end of a command. -/
def readEnd : Step Unit := do
  let _ ← takeWhile isBlank
  match ← peek? with
  | some '\x7d' | some '#' => return
  | _ =>
      match ← next? with
      | none | some '\n' | some ';' => return
      | some _ => fail "extra characters after command"

/-- The name of a label, up to a blank, a semicolon or a mark. -/
def readLabel (mark : Char) : Step NarrowText := do
  let _ ← takeWhile isBlank
  takeWhile fun c => !Numeral.isSpace c && c ≠ ';' && c ≠ mark

/-- The name of a file, up to the end of the line. -/
def readFileName : Step NarrowText := do
  let _ ← takeWhile isBlank
  let name ← takeWhile (· ≠ '\n')
  if name.isEmpty then fail "missing filename in r/R/w/W commands"
  let _ ← next?
  return name

/-! ## Texts between marks -/

/-- How far a set between brackets has been read: behind a bracket that may
open a name, inside of a name, or behind the mark that may close it. -/
inductive BracketPlace where
  | free
  | opened
  | named (mark : Char)
  | closing (mark : Char)
  deriving DecidableEq, Repr

/-- The place in a set behind one more character. -/
def BracketPlace.after (place : BracketPlace) (c : Char) : BracketPlace :=
  match place with
  | .free => if c = '[' then .opened else .free
  | .opened =>
      if c = ':' ∨ c = '.' ∨ c = '=' then .named c else if c = '[' then .opened else .free
  | .named mark => if c = mark then .closing mark else .named mark
  | .closing mark => if c = ']' then .free else if c = mark then .closing mark else .named mark

/-- A bracket at a place closes the set. -/
def BracketPlace.mayEnd : BracketPlace → Bool
  | .free | .opened => true
  | .named _ | .closing _ => false

/-- How many characters of a set there are from a place on, up to the bracket
that closes it; none if it is not closed. -/
def lengthFrom? (place : BracketPlace) (count : Nat) : NarrowText → Option Nat
  | [] => none
  | c :: rest =>
      if c = ']' ∧ place.mayEnd = true then some (count + 1)
      else lengthFrom? (place.after c) (count + 1) rest

/-- How many characters of a set between brackets there are, up to the bracket
that closes it, which may not be the first character. -/
def bracketLength? (text : NarrowText) : Option Nat :=
  let skipped :=
    match text with
    | '^' :: ']' :: _ => 2
    | '^' :: _ => 1
    | ']' :: _ => 1
    | _ => 0
  lengthFrom? .free skipped (text.drop skipped)

/-- A set between brackets in which escaped line ends are line ends. -/
def bracketText : NarrowText → NarrowText
  | '\\' :: 'n' :: rest => '\n' :: bracketText rest
  | c :: rest => c :: bracketText rest
  | [] => []

/-- The text up to a mark, and whether the mark was found; at most `limit`
characters.  In an expression, marks between brackets are passed over. -/
def readDelimited (mark : Char) (isExpression : Bool) : Nat → Step (Option NarrowText)
  | 0 => return none
  | limit + 1 => do
      match ← next? with
      | none => return none
      | some c =>
          if c = mark then return some []
          else if c = '\n' then return none
          else if c = '\\' then
            match ← next? with
            | none => return none
            | some d =>
                let meaning : NarrowText :=
                  if d = mark then
                    if !isExpression ∧ d = '&' then ['\\', '&'] else [d]
                  else if d = 'n' ∧ isExpression = true then ['\n']
                  else if d = '\n' then (if isExpression then ['\n'] else ['\\', '\n'])
                  else ['\\', d]
                return (← readDelimited mark isExpression limit).map (meaning ++ ·)
          else if c = '[' ∧ isExpression = true then
            match bracketLength? (← get).rest with
            | none => do
                skip (← get).rest.length
                return none
            | some length => do
                let inside := (← get).rest.take length
                skip length
                return (← readDelimited mark isExpression limit).map
                  (c :: bracketText inside ++ ·)
          else return (← readDelimited mark isExpression limit).map (c :: ·)

/-- The character with a number in a base behind a letter, and what follows. -/
def numberedCharacter? (base size : Nat) (text : NarrowText) : Option (Char × NarrowText) :=
  let digits := (text.take size).takeWhile (Numeral.isDigitOf base)
  if digits.isEmpty then none
  else some (Char.ofNat (Numeral.ofDigits base digits % 256), text.drop digits.length)

/-- The character that an escape stands for: a letter, a number, or a control
character. -/
def escapedCharacter? : NarrowText → Option (Char × NarrowText)
  | 'a' :: rest => some ('\x07', rest)
  | 'f' :: rest => some ('\x0c', rest)
  | 'r' :: rest => some ('\r', rest)
  | 't' :: rest => some ('\t', rest)
  | 'v' :: rest => some ('\x0b', rest)
  | 'd' :: rest => numberedCharacter? 10 3 rest
  | 'o' :: rest => numberedCharacter? 8 3 rest
  | 'x' :: rest => numberedCharacter? 16 2 rest
  | 'c' :: c :: rest =>
      let value := c.toUpper.toNat
      some (Char.ofNat (if value < 64 then value + 64 else value - 64), rest)
  | _ => none

/-- An expression with the escapes of single characters replaced; at most
`limit` steps. -/
def withoutEscapes : Nat → NarrowText → NarrowText
  | 0, text => text
  | _, [] => []
  | limit + 1, '\\' :: rest =>
      match escapedCharacter? rest with
      | some (c, after) => c :: withoutEscapes limit after
      | none =>
          match rest with
          | [] => ['\\']
          | c :: after => '\\' :: c :: withoutEscapes limit after
  | limit + 1, c :: rest => c :: withoutEscapes limit rest

/-! ## Expressions -/

/-- The expression that a text spells, with its number of groups.  An empty one
stands for the one that was used last. -/
def compile (anyCase lines : Bool) (text : NarrowText) : Step (Option Expression × Nat) := do
  if text.isEmpty then return (none, 9)
  let dialect : Posix.Dialect := { extended := (← get).extended, lines }
  match Posix.read dialect (withoutEscapes text.length text) with
  | .error fault => fail fault.message
  | .ok (expression, groups) =>
      return (some (if anyCase then expression.anyCase else expression), groups)

/-! ## Addresses -/

/-- The flags behind the expression of an address: any case, and edges of
lines. -/
def readAddressFlags : Nat → Step (Bool × Bool)
  | 0 => return (false, false)
  | limit + 1 => do
      match ← peek? with
      | some 'I' => do
          skip 1
          let (_, lines) ← readAddressFlags limit
          return (true, lines)
      | some 'M' => do
          skip 1
          let (anyCase, _) ← readAddressFlags limit
          return (anyCase, true)
      | _ => return (false, false)

/-- What an address is: a line that is asked for, or the end of a range. -/
inductive AddressForm where
  | address (address : Address)
  | ending (ending : RangeEnd)

/-- The address in front, if there is one. -/
def readAddress? : Step (Option AddressForm) := do
  match ← peek? with
  | some '/' => do
      skip 1
      return some (.address (← expression '/'))
  | some '\\' => do
      skip 1
      match ← next? with
      | none => fail "unterminated address regex"
      | some mark => return some (.address (← expression mark))
  | some '$' => do
      skip 1
      return some (.address .last)
  | some '+' => do
      skip 1
      return some (.ending (.after (← readNumber)))
  | some '~' => do
      skip 1
      return some (.ending (.multiple (← readNumber)))
  | some c =>
      if c.isDigit then do
        let first ← readNumber
        let _ ← takeWhile isBlank
        if (← peek?) = some '~' then
          skip 1
          let _ ← takeWhile isBlank
          return some (.address (.step first (← readNumber)))
        else return some (.address (.line first))
      else return none
  | none => return none
where
  /-- The expression up to a mark, with its flags. -/
  expression (mark : Char) : Step Address := do
    match ← readDelimited mark true ((← get).rest.length + 1) with
    | none => fail "unterminated address regex"
    | some text => do
        let (anyCase, lines) ← readAddressFlags ((← get).rest.length)
        let (expression, _) ← compile anyCase lines text
        return .holding expression

/-- The condition in front. -/
def readCondition : Step Condition := do
  match ← readAddress? with
  | none => return .always
  | some (.ending _) => do
      fail "invalid usage of +N or ~N as first address"
  | some (.address first) => do
      let isZero (address : Address) : Bool :=
        match address with
        | .line 0 => true
        | _ => false
      let _ ← takeWhile isBlank
      if (← peek?) = some ',' then
        skip 1
        let _ ← takeWhile isBlank
        match ← readAddress? with
        | none => do
            let _ ← next?
            fail "unexpected \x60,'"
        | some form => do
            let ending : RangeEnd :=
              match form with
              | .address address => .found address
              | .ending ending => ending
            let allowed :=
              match ending with
              | .found (.holding _) => true
              | _ => false
            if isZero first && !allowed then
              let _ ← nextMark?
              fail "invalid usage of line address 0"
            return .range first ending
      else
        if isZero first then
          let _ ← nextMark?
          fail "invalid usage of line address 0"
        return .one first

/-! ## Texts of commands -/

/-- The text of a command up to the end of the line, where a backslash protects
line ends; at most `limit` characters. -/
def readText : Nat → Step NarrowText
  | 0 => return ['\n']
  | limit + 1 => do
      match ← next? with
      | none | some '\n' => return ['\n']
      | some '\\' => do
          match escapedCharacter? (← get).rest with
          | some (c, after) => do
              skip ((← get).rest.length - after.length)
              return c :: (← readText limit)
          | none =>
              match ← next? with
              | none => return ['\n']
              | some c => return (if c = 'n' then '\n' else c) :: (← readText limit)
      | some c => return c :: (← readText limit)

/-- The text behind the letter of a command. -/
def readCommandText : Step NarrowText := do
  let _ ← takeWhile isBlank
  match ← peek? with
  | none => fail "expected \\ after \x60a', \x60c' or \x60i'"
  | some '\\' => do
      skip 1
      let blanks ← takeWhile isBlank
      match ← next? with
      | none => return []
      | some '\n' =>
          if (← get).rest.isEmpty then return []
          else readText ((← get).rest.length + 1)
      | some c => return blanks ++ c :: (← readText ((← get).rest.length + 1))
  | some _ => readText ((← get).rest.length + 1)

/-! ## Substitutions -/

/-- The parts of what is put in the place of a match; at most `limit` steps.
The text that is begun is kept in reverse. -/
def replacementParts (begun : NarrowText) : Nat → NarrowText → List Part
  | 0, _ | _, [] => flush begun []
  | limit + 1, '&' :: rest => flush begun (.group 0 :: replacementParts [] limit rest)
  | limit + 1, '\\' :: c :: rest =>
      let change? : Option CaseChange :=
        match c with
        | 'U' => some .upper
        | 'L' => some .lower
        | 'E' => some .none
        | 'u' => some .upperNext
        | 'l' => some .lowerNext
        | _ => none
      match change? with
      | some change => flush begun (.change change :: replacementParts [] limit rest)
      | none =>
          if c.isDigit then
            flush begun (.group (c.toNat - '0'.toNat) :: replacementParts [] limit rest)
          else if c = 'n' then replacementParts ('\n' :: begun) limit rest
          else
            match escapedCharacter? (c :: rest) with
            | some (d, after) => replacementParts (d :: begun) limit after
            | none => replacementParts (c :: begun) limit rest
  | limit + 1, c :: rest => replacementParts (c :: begun) limit rest
where
  /-- The text that is begun in front of other parts. -/
  flush (begun : NarrowText) (parts : List Part) : List Part :=
    if begun.isEmpty then parts else .text begun.reverse :: parts

/-- The flags behind a substitution: what they change, any case, and edges of
lines.  At most `limit` of them. -/
def readFlags (found : Substitution) (numbered anyCase lines : Bool) :
    Nat → Step (Substitution × Bool × Bool)
  | 0 => return (found, anyCase, lines)
  | limit + 1 => do
      match ← peek? with
      | some '\x7d' | some '#' => return (found, anyCase, lines)
      | some c => do
          if c.isDigit then
            if numbered then
              skip 1
              fail "multiple number options to \x60s' command"
            let number ← readNumber
            if number = 0 then fail "number option to \x60s' command may not be zero"
            readFlags { found with number } true anyCase lines limit
          else
            skip 1
            match c with
            | 'i' | 'I' => readFlags found numbered true lines limit
            | 'm' | 'M' => readFlags found numbered anyCase true limit
            | 'e' => readFlags found numbered anyCase lines limit
            | 'p' => do
                if found.prints then fail "multiple \x60p' options to \x60s' command"
                readFlags { found with prints := true } numbered anyCase lines limit
            | 'g' => do
                if found.everywhere then fail "multiple \x60g' options to \x60s' command"
                readFlags { found with everywhere := true } numbered anyCase lines limit
            | 'w' => do
                let file ← readFileName
                return ({ found with file := some file }, anyCase, lines)
            | '\n' | ';' => return (found, anyCase, lines)
            | ' ' | '\t' | '\r' => readFlags found numbered anyCase lines limit
            | _ => fail "unknown option to \x60s'"
      | none => return (found, anyCase, lines)

/-- A substitution behind its letter. -/
def readSubstitution : Step Substitution := do
  let unterminated := "unterminated \x60s' command"
  match ← next? with
  | none => fail unterminated
  | some mark => do
      if mark = '\n' ∨ mark = '\\' then fail unterminated
      match ← readDelimited mark true ((← get).rest.length + 1) with
      | none => fail unterminated
      | some pattern => do
          match ← readDelimited mark false ((← get).rest.length + 1) with
          | none => fail unterminated
          | some replacement => do
              let parts := replacementParts [] replacement.length replacement
              let (found, anyCase, lines) ←
                readFlags { expression := none, parts } false false false
                  ((← get).rest.length + 1)
              let (expression, groups) ← compile anyCase lines pattern
              let greatest := parts.foldl
                (fun greatest part =>
                  match part with
                  | .group number => max greatest number
                  | _ => greatest)
                0
              if groups < greatest then
                throw (.at (← get).place ("invalid reference \\".toList ++
                  Numeral.ofNat greatest ++ " on \x60s' command's RHS".toList))
              return { found with expression }

/-- The characters of one side of a translation. -/
def translationSide : NarrowText → NarrowText
  | '\\' :: c :: rest =>
      if c = '\\' then '\\' :: translationSide rest
      else if c = 'n' then '\n' :: translationSide rest
      else
        match escapedCharacter? [c] with
        | some (d, _) => d :: translationSide rest
        | none => '\\' :: c :: translationSide rest
  | c :: rest => c :: translationSide rest
  | [] => []

/-- A translation behind its letter. -/
def readTranslation : Step Action := do
  let unterminated := "unterminated \x60y' command"
  match ← next? with
  | none => fail unterminated
  | some mark => do
      match ← readDelimited mark false ((← get).rest.length + 1) with
      | none => fail unterminated
      | some first => do
          match ← readDelimited mark false ((← get).rest.length + 1) with
          | none => fail unterminated
          | some second => do
              let wanted := translationSide first
              let images := translationSide second
              if wanted.length ≠ images.length then
                fail "strings for \x60y' command are different lengths"
              readEnd
              return .translate wanted images

/-! ## Commands -/

/-- Put a command behind the others. -/
def push (command : Command) : Step Unit :=
  modify fun source => { source with commands := source.commands.push command }

/-- The action of a letter that stands by itself. -/
def plainAction? : Char → Option Action
  | '=' => some .number
  | 'd' => some .delete
  | 'D' => some .deleteLine
  | 'F' => some .name
  | 'g' => some .fetch
  | 'G' => some .fetchMore
  | 'h' => some .hold
  | 'H' => some .holdMore
  | 'n' => some .next
  | 'N' => some .nextMore
  | 'p' => some .print
  | 'P' => some .printLine
  | 'z' => some .clear
  | 'x' => some .exchange
  | _ => none

/-- A number behind a letter, if there is one. -/
def readArgument : Step (Option Nat) := do
  let _ ← takeWhile isBlank
  let number ←
    match ← peek? with
    | some c => if c.isDigit then pure (some (← readNumber)) else pure none
    | none => pure none
  readEnd
  return number

/-- The version of the language that a script may ask for at most. -/
def knownVersion : List Nat := [4, 9]

/-- The numbers of a version. -/
def versionNumbers (text : NarrowText) : List Nat :=
  (Text.stretches '.' text).map fun digits => (Numeral.natural? digits).getD 0

/-- One version is later than another one. -/
def isLater : List Nat → List Nat → Bool
  | [], _ => false
  | _ :: _, [] => true
  | a :: as, b :: bs => decide (b < a) || (a = b && isLater as bs)

/-- Read a command with a condition; its letter was read. -/
def readAction (condition : Condition) (negated : Bool) (letter : Char) : Step Unit := do
  let isPlain :=
    match condition with
    | .always => true
    | _ => false
  let isRange :=
    match condition with
    | .range _ _ => true
    | _ => false
  let add (action : Action) : Step Unit := push ⟨condition, negated, action⟩
  match plainAction? letter with
  | some action => do
      readEnd
      add action
  | none =>
      match letter with
      | '\x7b' => do
          let source ← get
          set { source with
            blocks := (source.commands.size, ⟨condition, negated, .nothing⟩) :: source.blocks }
          add .nothing
      | '\x7d' => do
          match (← get).blocks with
          | [] => fail "unexpected \x60\x7d'"
          | (start, opening) :: others => do
              if !isPlain then fail "\x7d doesn't want any addresses"
              readEnd
              modify fun source =>
                { source with
                  blocks := others
                  commands := source.commands.setIfInBounds start
                    { opening with action := .enter source.commands.size } }
      | 'a' => do add (.append (← readCommandText))
      | 'i' => do add (.insert (← readCommandText))
      | 'c' => do add (.change (← readCommandText))
      | ':' => do
          if !isPlain then fail ": doesn't want any addresses"
          let label ← readLabel ';'
          if label.isEmpty then fail "\":\" lacks a label"
          modify fun source =>
            { source with labels := source.labels ++ [(label, source.commands.size)] }
      | 'b' | 't' | 'T' => do
          let label ← readLabel '\x7d'
          let time : JumpTime :=
            if letter = 'b' then .always else if letter = 't' then .replaced else .notReplaced
          if !label.isEmpty then
            modify fun source =>
              { source with jumps := (source.commands.size, label) :: source.jumps }
          add (.jump time none)
      | 'q' | 'Q' => do
          if isRange then fail "command only uses one address"
          let status ← readArgument
          add (.quit (letter = 'q') (status.getD 0))
      | 'l' => do
          let width ← readArgument
          add (.reveal width)
      | 'r' => do add (.readFile (← readFileName))
      | 'R' => do add (.readLine (← readFileName))
      | 'w' => do add (.writeFile (← readFileName))
      | 'W' => do add (.writeLine (← readFileName))
      | 's' => do add (.substitute (← readSubstitution))
      | 'y' => do add (← readTranslation)
      | 'v' => do
          let version ← readLabel ';'
          if isLater (versionNumbers version) knownVersion then
            fail "expected newer version of sed"
          readEnd
      | 'e' => do
          let _ ← takeWhile (· ≠ '\n')
      | c =>
          throw (.at (← get).place ("unknown command: \x60".toList ++ [c, '\'']))

/-- Read commands up to the end of the text; at most `limit` of them. -/
def readCommands : Nat → Step Unit
  | 0 => return
  | limit + 1 => do
      let _ ← takeWhile fun c => Numeral.isSpace c || c = ';'
      if (← get).rest.isEmpty then return
      let condition ← readCondition
      let isPlain :=
        match condition with
        | .always => true
        | _ => false
      match ← nextMark? with
      | none => fail "missing command"
      | some '#' => do
          if !isPlain then fail "comments don't accept any addresses"
          let _ ← takeWhile (· ≠ '\n')
          readCommands limit
      | some '!' => do
          match ← nextMark? with
          | none => fail "missing command"
          | some '!' => fail "multiple \x60!'s"
          | some letter => do
              readAction condition true letter
              readCommands limit
      | some letter => do
          readAction condition false letter
          readCommands limit

/-! ## Scripts -/

/-- A part of a script: where it comes from, for faults, and its text. -/
structure ScriptText where
  origin : NarrowText
  isFile : Bool
  text : NarrowText

/-- The texts of a script, where one that ends in a backslash goes on in the
next one. -/
def joined : List ScriptText → List ScriptText
  | first :: rest =>
      match joined rest with
      | second :: others =>
          if (first.text.reverse.takeWhile (· = '\\')).length % 2 = 1 then
            { first with text := first.text ++ '\n' :: second.text } :: others
          else first :: second :: others
      | [] => [first]
  | [] => []

/-- The number of the line at a place. -/
def lineAt (text : NarrowText) (place : Nat) : Nat :=
  ((text.take place).filter (· = '\n')).length + 1

/-- A fault of one text of a script, in words. -/
def describe (source : ScriptText) : Fault → NarrowText
  | .general message => message
  | .at place message =>
      if source.isFile then
        "file ".toList ++ source.origin ++ " line ".toList ++
          Numeral.ofNat (lineAt source.text (place - 1)) ++ ": ".toList ++ message
      else
        source.origin ++ ", char ".toList ++ Numeral.ofNat place ++ ": ".toList ++ message

/-- Read the texts of a script one after the other. -/
def readTexts (source : Source) : List ScriptText → Except NarrowText Source
  | [] => .ok source
  | text :: rest =>
      let source := { source with rest := text.text, place := 0 }
      match (readCommands (text.text.length + 1)).run source with
      | .ok ((), after) => readTexts after rest
      | .error fault => .error (describe text fault)

/-- The jumps of a script with the places of their labels. -/
def resolve (source : Source) : Except NarrowText (Array Command) :=
  source.jumps.reverse.foldlM
    (fun commands (place, label) =>
      match source.labels.find? fun entry => entry.1 = label with
      | none => .error ("can't find label for jump to \x60".toList ++ label ++ ['\''])
      | some (_, target) =>
          .ok (commands.modify place fun command =>
            match command.action with
            | .jump time _ => { command with action := .jump time (some target) }
            | _ => command))
    source.commands

/-- Why there is no script: a fault in its texts, or in its labels. -/
inductive ScriptFault where
  | text (message : NarrowText)
  | label (message : NarrowText)
  deriving DecidableEq, Repr

/-- The script in several texts. -/
def readScript (extended silent : Bool) (texts : List ScriptText) :
    Except ScriptFault Script :=
  let texts := joined texts
  let marked :=
    match texts with
    | first :: _ => first.text.take 2 = ['#', 'n'] && (first.text.drop 2).head?.all (· = '\n')
    | [] => false
  match readTexts { rest := [], extended } texts with
  | .error message => .error (.text message)
  | .ok source =>
      match source.blocks, texts.head? with
      | _ :: _, some first => .error (.text (describe first (.at 0 "unmatched \x60\x7b'".toList)))
      | _, _ =>
          match resolve source with
          | .error message => .error (.label message)
          | .ok commands => .ok ⟨commands, silent || marked⟩

end Editing
end SyntaxCensus
