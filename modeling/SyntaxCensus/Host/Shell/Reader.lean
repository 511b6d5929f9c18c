import SyntaxCensus.Host.Shell.Words

/-!
# Reading scripts

A script is read a line at a time, where a line goes on as long as a command
that is begun on it, since the commands of a line may change how the next one
is read.

Main definitions:

- `Shell.readLine`: the commands of the line in front.
-/

namespace SyntaxCensus
namespace Shell

open Shell.Reading

/-! ## Tokens -/

/-- The words that shape commands where a command may begin. -/
def keywords : List String :=
  ["!", "case", "do", "done", "elif", "else", "esac", "fi", "for", "if", "in", "then", "until",
    "while", "\x7b", "\x7d"]

/-- The words that shape commands in the extended language only. -/
def extendedKeywords : List String :=
  ["function", "[[", "time"]

/-- A word shapes commands where a command may begin. -/
def isKeyword (extended : Bool) (word : NarrowText) : Bool :=
  keywords.contains (String.ofList word) ||
    (extended && extendedKeywords.contains (String.ofList word))

/-- The names of commands that functions cannot have. -/
def specialCommands : List String :=
  [".", ":", "break", "continue", "eval", "exec", "exit", "export", "readonly", "return", "set",
    "shift", "times", "trap", "unset"]

namespace Token

/-- A token in a message. -/
def description : Token → String
  | lineEnd => "newline"
  | scriptEnd => "end of file"
  | mark text => "\"" ++ text ++ "\""
  | keyword name => "\"" ++ name ++ "\""
  | redirection _ => "redirection"
  | word _ _ => "word"

/-- The token is a mark. -/
def isMark (text : String) : Token → Bool
  | mark found => found = text
  | _ => false

/-- The token is a keyword. -/
def isKeyword (name : String) : Token → Bool
  | keyword found => found = name
  | _ => false

/-- The token ends a list of commands. -/
def endsList : Token → Bool
  | scriptEnd => true
  | mark text => text = ")" || text = ";;" || text = ";&" || text = ";;&"
  | keyword name => ["do", "done", "elif", "else", "esac", "fi", "then", "\x7d"].contains name
  | _ => false

end Token

/-- End with a fault at a token. -/
def unexpected {α : Type} (token : Token) (expected : Option String) : Reading α := do
  if ← isExtended then
    match token with
    | .scriptEnd => fail tooShort
    | _ => fail s!"syntax error near unexpected token {extendedDescription token}"
  else
    match expected with
    | some name => fail s!"{token.description} unexpected (expecting {name})"
    | none => fail s!"{token.description} unexpected"
where
  /-- A token in a message of the extended language. -/
  extendedDescription : Token → String
    | .lineEnd => "\x60newline'"
    | .mark text => "\x60" ++ text ++ "'"
    | .keyword name => "\x60" ++ name ++ "'"
    | .word segments _ => "\x60" ++ String.ofList (Word.plainText segments) ++ "'"
    | other => "\x60" ++ other.description ++ "'"

/-- Give a token back, so that it is read again. -/
def giveBack (token : Token) : Reading Unit :=
  modify fun source => { source with pushed := some token }

/-- The word that the text of a redirection or a pattern needs. -/
def needWord (token : Token) : Reading (Word × Bool) :=
  match token with
  | .word segments quoted => return (segments, quoted)
  | .keyword name => return ([.literal false name.toList], false)
  | other => unexpected other none

/-- Skip blanks, joined lines and a comment; at most `limit` characters. -/
def skipBlanks : Nat → Reading Unit
  | 0 => return
  | limit + 1 => do
      match ← next? with
      | some ' ' | some '\t' => do
          drop
          skipBlanks limit
      | some '#' => do
          let _ ← takeWhile (· ≠ '\n')
          skipBlanks limit
      | _ => return

/-- A mark of one character, or of two if it is doubled.  In the extended
language some have an ampersand behind them. -/
def readDoubled (c : Char) : Reading Token := do
  drop
  let doubled ← take? [c]
  let mark := if doubled then [c, c] else [c]
  let joins := decide (c = ';') || (decide (c = '|') && !doubled)
  if (← isExtended) && joins && (← take? ['&']) then return .mark (String.ofList (mark ++ ['&']))
  else return .mark (String.ofList mark)

variable (nested : NestedReading)

/-- The feed that begins here, if one does in the extended language. -/
def readFeed? : Reading (Option Segment) := do
  if !(← isExtended) then return none
  else if ← take? ['<', '('] then return some (.feed (← nested true))
  else return none

/-- The word after the mark of a redirection. -/
def readTarget : Reading (Word × Bool) := do
  skipBlanks ((← size) + 1)
  if let some segment ← readFeed? nested then return ([segment], false)
  match ← next? with
  | none => unexpected .scriptEnd none
  | some '\n' => unexpected .lineEnd none
  | some c =>
      if c = '<' ∨ c = '>' then unexpected (.redirection (.document 0 0)) none
      else if c = '(' ∨ c = ')' then unexpected (.mark (String.singleton c)) none
      else if isMark c then unexpected (← readDoubled c) none
      else do
        let (segments, quoted) ← readWord nested
        match Word.bare? segments, ← next? with
        | some [digit], some next =>
            if digit.isDigit ∧ (next = '<' ∨ next = '>') then
              unexpected (.redirection (.document 0 0)) none
            else return (segments, quoted)
        | _, _ => return (segments, quoted)

/-- Begin a here-document, whose text is read at the end of the line. -/
def beginDocument (descriptor : Nat) : Reading Redirection := do
  let indented ← take? ['-']
  let (ending, quoted) ← readTarget nested
  let source ← get
  let document : PendingDocument :=
    { number := source.nextDocument, ending := Word.plainText ending, quoted, indented }
  set { source with
    pending := source.pending ++ [document]
    nextDocument := source.nextDocument + 1 }
  return .document descriptor document.number

/-- The redirection that a mark begins, behind the number of a descriptor. -/
def readRedirection (descriptor : Option Nat) : Reading Redirection := do
  let path : Reading Word := return (← readTarget nested).1
  if ← take? ['>'] then
    let descriptor := descriptor.getD 1
    if ← take? ['>'] then return .file descriptor .extend (← path)
    else if ← take? ['|'] then return .file descriptor .replaceAlways (← path)
    else if ← take? ['&'] then return .duplicate descriptor (← path)
    else return .file descriptor .replace (← path)
  else do
    drop
    let descriptor := descriptor.getD 0
    if ← take? ['<'] then
      if (← isExtended) && (← take? ['<']) then return .text descriptor (← path)
      else beginDocument nested descriptor
    else if ← take? ['&'] then return .duplicate descriptor (← path)
    else if ← take? ['>'] then return .file descriptor .readWrite (← path)
    else return .file descriptor .read (← path)

/-- The token in front. -/
def readPlainToken : Reading Token := do
  match (← get).pushed with
  | some token => do
      modify fun source => { source with pushed := none }
      return token
  | none => do
      skipBlanks ((← size) + 1)
      match ← next? with
      | none => return .scriptEnd
      | some '\n' => do
          pass ['\n'] (← rest).tail
          return .lineEnd
      | some c =>
          if (← isExtended) && c = '&' && (← rest).tail.head? = some '>' then do
            drop
            drop
            let access : Access := if ← take? ['>'] then .extend else .replace
            return .redirection (.outputs access (← readTarget nested).1)
          else if c = '&' ∨ c = '|' ∨ c = ';' then readDoubled c
          else if c = '(' ∨ c = ')' then do
            drop
            return .mark (String.singleton c)
          else do
            if let some segment ← readFeed? nested then return .word [segment] false
            let (segments, quoted) ← readWord nested
            match ← next? with
            | some next =>
                if next = '<' ∨ next = '>' then
                  match segments, Word.bare? segments with
                  | [], _ => return .redirection (← readRedirection nested none)
                  | _, some [digit] =>
                      if digit.isDigit ∧ !quoted then
                        return .redirection
                          (← readRedirection nested (some (digit.toNat - '0'.toNat)))
                      else return .word segments quoted
                  | _, _ => return .word segments quoted
                else return .word segments quoted
            | none => return .word segments quoted

/-- What is looked for when a token is read: line ends are skipped, words are
checked for keywords, and for other names of commands. -/
structure Wanted where
  skipLines : Bool := false
  keywords : Bool := false
  aliases : Bool := false

/-- Where a command may begin. -/
def Wanted.command : Wanted := { keywords := true, aliases := true }

/-- Where a command may begin on a later line. -/
def Wanted.laterCommand : Wanted := { skipLines := true, keywords := true, aliases := true }

/-- Put another text in the place of a name of a command, if it has one that
is not being put in already. -/
def replaceName? (name : NarrowText) : Reading Bool := do
  let source ← get
  let active := source.replacing.filter fun entry => decide (entry.2 ≤ source.rest.length)
  match source.aliases.find? fun entry => entry.1 = name with
  | none => return false
  | some (_, value) =>
      if active.any fun entry => entry.1 = name then return false
      else do
        set { source with
          rest := value ++ source.rest
          replacing := (name, source.rest.length) :: active }
        return true

/-- The token in front, with what is looked for. -/
def readToken (wanted : Wanted) : Nat → Reading Token
  | 0 => return .scriptEnd
  | limit + 1 => do
      match ← readPlainToken nested with
      | .lineEnd =>
          if wanted.skipLines then do
            readDocuments nested
            readToken wanted limit
          else return .lineEnd
      | .word segments quoted =>
          match Word.bare? segments with
          | none => return .word segments quoted
          | some name =>
              if quoted then return .word segments quoted
              else if wanted.keywords && isKeyword (← isExtended) name then
                return .keyword (String.ofList name)
              else if wanted.aliases then
                if ← replaceName? name then readToken wanted limit
                else return .word segments quoted
              else return .word segments quoted
      | other => return other

/-- A token with what is looked for. -/
def nextToken (wanted : Wanted) : Reading Token := do
  readToken nested wanted (2 * (← size) + 100)

/-- Take a keyword that must be next. -/
def expectKeyword (name : String) : Reading Unit := do
  let token ← nextToken nested {}
  if !token.isKeyword name then unexpected token (some ("\"" ++ name ++ "\""))

/-! ## Simple commands -/

/-- A word that assigns to a variable. -/
def assignment? : Word → Option (NarrowText × Word)
  | .literal false text :: segments =>
      let name := text.takeWhile (· ≠ '=')
      match text.dropWhile (· ≠ '=') with
      | _ :: value =>
          if isName name then
            some (name, if value.isEmpty then segments else .literal false value :: segments)
          else none
      | [] => none
  | _ => none

/-- The segments of a word behind a character that stands outside quotes, and
those before it. -/
def splitWord (mark : Char) : Word → Option (Word × Word)
  | [] => none
  | .literal false text :: rest =>
      let before := text.takeWhile (· ≠ mark)
      match text.dropWhile (· ≠ mark) with
      | _ :: after =>
          some (if before.isEmpty then [] else [.literal false before],
            if after.isEmpty then rest else .literal false after :: rest)
      | [] => (splitWord mark rest).map fun (front, back) => (.literal false text :: front, back)
  | segment :: rest =>
      (splitWord mark rest).map fun (front, back) => (segment :: front, back)

/-- A word that assigns to a variable, to an element, or to the end of a text,
in the extended language. -/
def extendedAssignment? (word : Word) : Option (NarrowText × Assigned) :=
  match word with
  | .literal false text :: segments =>
      let name := text.takeWhile isNameCharacter
      let back := text.dropWhile isNameCharacter
      let rest (text : NarrowText) : Word :=
        if text.isEmpty then segments else .literal false text :: segments
      if !isName name then none
      else
        match back with
        | '=' :: value => some (name, .text false none (rest value))
        | '+' :: '=' :: value => some (name, .text true none (rest value))
        | '[' :: inner =>
            match splitWord ']' (rest inner) with
            | some (index, .literal false ('=' :: value) :: more) =>
                some (name, .text false (some index)
                  (if value.isEmpty then more else .literal false value :: more))
            | some (index, .literal false ('+' :: '=' :: value) :: more) =>
                some (name, .text true (some index)
                  (if value.isEmpty then more else .literal false value :: more))
            | _ => none
        | _ => none
  | _ => none

/-- The parts of a simple command, in reverse.  Rows are assigned behind the
command if it declares their variables. -/
structure Parts where
  assignments : List (NarrowText × Assigned) := []
  words : List Word := []
  redirections : List Redirection := []
  later : List (NarrowText × Assigned) := []

/-- The values of a row up to a parenthesis, some with their keys; at most
`limit` of them. -/
def readRow : Nat → Reading (List (Option Word × Word))
  | 0 => return []
  | limit + 1 => do
      match ← nextToken nested { skipLines := true } with
      | .word segments _ =>
          let value :=
            match segments with
            | .literal false ('[' :: inner) :: rest =>
                match splitWord ']' (.literal false inner :: rest) with
                | some (index, .literal false ('=' :: value) :: more) =>
                    (some index, if value.isEmpty then more else .literal false value :: more)
                | _ => (none, segments)
            | _ => (none, segments)
          return value :: (← readRow limit)
      | token =>
          if token.isMark ")" then return [] else unexpected token none

/-- The name of a word that assigns a row, and whether it is put behind what is
there. -/
def rowName? (word : Word) : Option (NarrowText × Bool) :=
  match word with
  | [.literal false text] =>
      match text.reverse with
      | '=' :: '+' :: name =>
          if isName name.reverse then some (name.reverse, true) else none
      | '=' :: name => if isName name.reverse then some (name.reverse, false) else none
      | _ => none
  | _ => none

/-- The commands that declare variables in the extended language. -/
def declaring : List String :=
  ["declare", "typeset", "local", "export", "readonly"]

/-- The first of some words declares variables. -/
def declares (words : List Word) : Bool :=
  match words.getLast?.bind Word.bare? with
  | some name => declaring.contains (String.ofList name)
  | none => false

/-- Add a word to a simple command in the extended language. -/
def addExtended (parts : Parts) (segments : Word) : Reading Parts := do
  let isRow := (← next?) = some '('
  match (if isRow then rowName? segments else none), parts.words with
  | some (name, appends), [] => do
      drop
      let values ← readRow nested ((← size) + 1)
      return { parts with assignments := (name, .row appends values) :: parts.assignments }
  | some (name, appends), _ :: _ => do
      if declares parts.words then
        drop
        let values ← readRow nested ((← size) + 1)
        return { parts with
          words := [.literal false name] :: parts.words
          later := (name, .row appends values) :: parts.later }
      else return { parts with words := segments :: parts.words }
  | none, [] =>
      match extendedAssignment? segments with
      | some found => return { parts with assignments := found :: parts.assignments }
      | none => return { parts with words := [segments] }
  | none, _ :: _ => return { parts with words := segments :: parts.words }

/-- The simple command of some parts. -/
def Parts.command (line : Nat) (parts : Parts) : Command :=
  let first := Command.simple line parts.assignments.reverse parts.words.reverse
    parts.redirections.reverse
  if parts.later.isEmpty then first
  else .sequence first (.simple line parts.later.reverse [] [])

/-- The rest of a simple command. -/
def readSimple (line : Nat) (body : Reading Command) (parts : Parts) : Nat → Reading Command
  | 0 => fail "Too long"
  | limit + 1 => do
      let token ← nextToken nested { aliases := parts.words.isEmpty }
      match token with
      | .word segments _ => do
          if ← isExtended then
            readSimple line body (← addExtended nested parts segments) limit
          else
            match parts.words, assignment? segments with
            | [], some (name, value) =>
                let found := (name, Assigned.text false none value)
                readSimple line body { parts with assignments := found :: parts.assignments } limit
            | _, _ =>
                readSimple line body { parts with words := segments :: parts.words } limit
      | .redirection found =>
          readSimple line body { parts with redirections := found :: parts.redirections } limit
      | _ =>
          match token.isMark "(", parts with
          | true, ⟨[], [name], [], []⟩ => do
              let closing ← nextToken nested {}
              if !closing.isMark ")" then unexpected closing (some "\")\"")
              let extended ← isExtended
              match Word.bare? name with
              | some text =>
                  if extended ∨ isName text ∧ !specialCommands.contains (String.ofList text) then do
                    let body ← body
                    return .definition text body
                  else fail "Bad function name"
              | none => fail "Bad function name"
          | _, _ => do
              giveBack token
              return parts.command line

/-- Redirections behind a command, up to another token. -/
def readRedirections : Nat → Reading (List Redirection)
  | 0 => return []
  | limit + 1 => do
      match ← nextToken nested Wanted.command with
      | .redirection found => return found :: (← readRedirections limit)
      | token => do
          giveBack token
          return []

/-- The patterns of a clause, up to the parenthesis behind them; the first
token is read already. -/
def readPatterns (token : Token) : Nat → Reading (List Word)
  | 0 => unexpected token none
  | limit + 1 => do
      let pattern ←
        match token with
        | .word segments _ => pure segments
        | .keyword name => pure [.literal false name.toList]
        | _ => pure []
      let after ← nextToken nested {}
      if after.isMark "|" then return pattern :: (← readPatterns (← nextToken nested {}) limit)
      else if after.isMark ")" then return [pattern]
      else unexpected after (some "\")\"")

/-- The words that a `for` command goes through, up to the end of the line. -/
def readValues : Nat → Reading (List Word)
  | 0 => return []
  | limit + 1 => do
      match ← nextToken nested {} with
      | .word segments _ => return segments :: (← readValues limit)
      | .lineEnd => do
          giveBack .lineEnd
          return []
      | token =>
          if token.isMark ";" then return []
          else unexpected token none

/-! ## Conditions -/

/-- Skip blanks and line ends; at most `limit` characters. -/
def skipLines : Nat → Reading Unit
  | 0 => return
  | limit + 1 => do
      match ← next? with
      | some ' ' | some '\t' => do
          drop
          skipLines limit
      | some '\n' => do
          pass ['\n'] (← rest).tail
          skipLines limit
      | _ => return

/-- A word of a condition. -/
def readConditionWord (asOperand : Bool) : Reading Word := do
  skipLines ((← size) + 1)
  let limit := 4 * ((← size) + 1)
  let (word, _) ← readSegments nested (if asOperand then .operand 0 else .bare) limit
  if word.isEmpty then fail "syntax error in conditional expression"
  return word

/-- The tests of two texts by their names, and whether the second text is a
pattern or an expression. -/
def operators : List (String × Bool) :=
  [("==", true), ("=", true), ("!=", true), ("=~", true), ("-eq", false), ("-ne", false),
    ("-lt", false), ("-le", false), ("-gt", false), ("-ge", false), ("-nt", false),
    ("-ot", false), ("-ef", false)]

/-- The test of two texts that stands next, if one does. -/
def readOperator? : Reading (Option (NarrowText × Bool)) := do
  skipBlanks ((← size) + 1)
  if ← take? ['<'] then return some (['<'], false)
  else if ← take? ['>'] then return some (['>'], false)
  else
    let text ← rest
    let word := text.takeWhile fun c => !isBlankMark c
    match operators.find? fun entry => entry.1.toList = word with
    | some (name, asOperand) => do
        goOn (text.drop word.length)
        return some (name.toList, asOperand)
    | none => return none

/-- The condition that an operator makes of two words. -/
def conditionOf (operator : NarrowText) (first second : Word) : Condition :=
  match String.ofList operator with
  | "==" | "=" => .pattern false first second
  | "!=" => .pattern true first second
  | "=~" => .expression first second
  | _ => .double operator first second

/-- A word looks like the test of one text. -/
def isSingleName (text : NarrowText) : Bool :=
  match text with
  | ['-', c] => c.isAlpha
  | _ => false

mutual

/-- Conditions of which one has to hold; at most `limit` steps. -/
def readEitherCondition : Nat → Reading Condition
  | 0 => fail "Too deep"
  | limit + 1 => do
      let first ← readBothConditions limit
      skipLines ((← size) + 1)
      if ← take? ['|', '|'] then return .either first (← readEitherCondition limit)
      else return first

/-- Conditions that all have to hold. -/
def readBothConditions : Nat → Reading Condition
  | 0 => fail "Too deep"
  | limit + 1 => do
      let first ← readOneCondition limit
      skipLines ((← size) + 1)
      if ← take? ['&', '&'] then return .both first (← readBothConditions limit)
      else return first

/-- A condition without operators between conditions. -/
def readOneCondition : Nat → Reading Condition
  | 0 => fail "Too deep"
  | limit + 1 => do
      skipLines ((← size) + 1)
      if ← take? ['('] then
        let inner ← readEitherCondition limit
        skipLines ((← size) + 1)
        if ← take? [')'] then return inner else fail "syntax error in conditional expression"
      else
        let first ← readConditionWord nested false
        match Word.bare? first with
        | some ['!'] => return .not (← readOneCondition limit)
        | some text => do
            match ← readOperator? with
            | some (operator, asOperand) =>
                return conditionOf operator first (← readConditionWord nested asOperand)
            | none =>
                if isSingleName text then
                  return .single text (← readConditionWord nested false)
                else return .word first
        | none => do
            match ← readOperator? with
            | some (operator, asOperand) =>
                return conditionOf operator first (← readConditionWord nested asOperand)
            | none => return .word first

end

/-- The condition up to the brackets that close it. -/
def readCondition : Reading Condition := do
  let found ← readEitherCondition nested (4 * ((← size) + 1))
  skipLines ((← size) + 1)
  if ← take? [']', ']'] then return found else fail "syntax error in conditional expression"

/-- The calculation up to two parentheses that close it. -/
def readCalculation : Reading Word := do
  let (found, _) ← readSegments nested (.calculation 0) (4 * ((← size) + 1))
  drop
  drop
  return found

/-! ## Commands -/

/-- Commands behind each other in a pipeline; the diagnostics of some go through
the pipe behind them. -/
def joinPipes (line : Nat) (first : Command) : List (Bool × Command) → List Command
  | [] => [first]
  | (joined, second) :: rest =>
      let first :=
        if joined then
          Command.redirected line first [.duplicate 2 (Word.ofText ['1'])]
        else first
      first :: joinPipes line second rest

/-- A command behind another one. -/
def followedBy (before : Option Command) (command : Command) : Command :=
  match before with
  | none => command
  | some first => .sequence first command

mutual

/-- The commands of a list up to a token that ends it; `mayBeEmpty` says that
the list may hold nothing.  The number of steps is limited, as for all readers
of commands. -/
def readList (mayBeEmpty : Bool) (before : Option Command) : Nat → Reading Command
  | 0 => fail "Too deep"
  | limit + 1 => do
      let token ← nextToken (nestedReading limit) Wanted.laterCommand
      giveBack token
      let isEnd :=
        match token with
        | .scriptEnd => true
        | _ => (mayBeEmpty || before.isSome) && token.endsList
      if isEnd then return before.getD .nothing
      else do
        let (command, goesOn) ← readItem before limit
        if goesOn then readList mayBeEmpty (some command) limit else return command

/-- A command of a list with what stands before it, and whether the list may
go on. -/
def readItem (before : Option Command) : Nat → Reading (Command × Bool)
  | 0 => fail "Too deep"
  | limit + 1 => do
      let command ← readChain limit
      let token ← nextToken (nestedReading limit) {}
      if token.isMark "&" then return (followedBy before (.background command), true)
      else if token.isMark ";" then return (followedBy before command, true)
      else do
        giveBack token
        match token with
        | .lineEnd => return (followedBy before command, true)
        | _ => return (followedBy before command, false)

/-- Commands joined by `&&` and `||`. -/
def readChain : Nat → Reading Command
  | 0 => fail "Too deep"
  | limit + 1 => do readChainFrom (← readPipeline {} limit) limit

/-- Further commands joined to one by `&&` and `||`. -/
def readChainFrom (first : Command) : Nat → Reading Command
  | 0 => fail "Too deep"
  | limit + 1 => do
      let token ← nextToken (nestedReading limit) {}
      if token.isMark "&&" then
        readChainFrom (.both first (← readPipeline Wanted.laterCommand limit)) limit
      else if token.isMark "||" then
        readChainFrom (.either first (← readPipeline Wanted.laterCommand limit)) limit
      else do
        giveBack token
        return first

/-- Commands joined by pipes. -/
def readPipeline (wanted : Wanted) : Nat → Reading Command
  | 0 => fail "Too deep"
  | limit + 1 => do
      let token ← nextToken (nestedReading limit) wanted
      if token.isKeyword "!" then
        return .negation (← readPipes Wanted.command limit)
      else do
        giveBack token
        readPipes {} limit

/-- A command, and further ones that are joined to it by pipes. -/
def readPipes (wanted : Wanted) : Nat → Reading Command
  | 0 => fail "Too deep"
  | limit + 1 => do
      let first ← readCommand wanted limit
      match ← readPiped limit with
      | [] => return first
      | others => return .pipeline (joinPipes (← get).line first others)

/-- The commands behind pipes, and whether diagnostics go through the pipe. -/
def readPiped : Nat → Reading (List (Bool × Command))
  | 0 => fail "Too deep"
  | limit + 1 => do
      let token ← nextToken (nestedReading limit) {}
      if token.isMark "|" || token.isMark "|&" then do
        let command ← readCommand Wanted.laterCommand limit
        return (token.isMark "|&", command) :: (← readPiped limit)
      else do
        giveBack token
        return []

/-- One command with its redirections. -/
def readCommand (wanted : Wanted) : Nat → Reading Command
  | 0 => fail "Too deep"
  | limit + 1 => do
      let nested := nestedReading limit
      let token ← nextToken nested wanted
      let line := (← get).line
      match token with
      | .word _ _ | .redirection _ => do
          giveBack token
          readSimple nested line (readCommand Wanted.laterCommand limit) {} ((← size) + 2)
      | .mark "(" => do
          if (← isExtended) && (← rest).head? = some '(' then
            drop
            let expression ← readCalculation nested
            return ← redirected line (.calculation line expression) limit
          let body ← readList false none limit
          let closing ← nextToken nested {}
          if !closing.isMark ")" then unexpected closing (some "\")\"")
          redirected line (.subshell line body) limit
      | .keyword "\x7b" => do
          let body ← readList false none limit
          expectKeyword nested "\x7d"
          redirected line body limit
      | .keyword "[[" => do
          redirected line (.condition line (← readCondition nested)) limit
      | .keyword "time" => do readCommand Wanted.command limit
      | .keyword "function" => do
          let name ←
            match ← nextToken nested {} with
            | .word segments _ => pure (Word.plainText segments)
            | other => unexpected other none
          let opening ← nextToken nested {}
          if opening.isMark "(" then
            let closing ← nextToken nested {}
            if !closing.isMark ")" then unexpected closing none
          else giveBack opening
          return .definition name (← readCommand Wanted.laterCommand limit)
      | .keyword "if" => do redirected line (← readBranch limit) limit
      | .keyword "while" => do
          let condition ← readList false none limit
          expectKeyword nested "do"
          let body ← readList false none limit
          expectKeyword nested "done"
          redirected line (.loop false condition body) limit
      | .keyword "until" => do
          let condition ← readList false none limit
          expectKeyword nested "do"
          let body ← readList false none limit
          expectKeyword nested "done"
          redirected line (.loop true condition body) limit
      | .keyword "for" => do redirected line (← readEach line limit) limit
      | .keyword "case" => do
          let (subject, _) ←
            match ← nextToken nested {} with
            | .word segments quoted => pure (segments, quoted)
            | other => unexpected other (some "word")
          let joining ← nextToken nested Wanted.laterCommand
          if !joining.isKeyword "in" then unexpected joining (some "\"in\"")
          redirected line (.choice line subject (← readClauses limit)) limit
      | other => unexpected other none

/-- A command with the redirections behind it. -/
def redirected (line : Nat) (command : Command) : Nat → Reading Command
  | 0 => fail "Too deep"
  | limit + 1 => do
      match ← readRedirections (nestedReading limit) ((← size) + 2) with
      | [] => return command
      | redirections => return .redirected line command redirections

/-- The rest of an `if` command after its first word. -/
def readBranch : Nat → Reading Command
  | 0 => fail "Too deep"
  | limit + 1 => do
      let nested := nestedReading limit
      let condition ← readList false none limit
      expectKeyword nested "then"
      let accepted ← readList false none limit
      match ← nextToken nested {} with
      | .keyword "elif" => return .branch condition accepted (some (← readBranch limit))
      | .keyword "else" => do
          let refused ← readList false none limit
          expectKeyword nested "fi"
          return .branch condition accepted (some refused)
      | token => do
          giveBack token
          expectKeyword nested "fi"
          return .branch condition accepted none

/-- The rest of a `for` command after its first word. -/
def readEach (line : Nat) : Nat → Reading Command
  | 0 => fail "Too deep"
  | limit + 1 => do
      let nested := nestedReading limit
      let first ← nextToken nested {}
      if (← isExtended) && first.isMark "(" && (← rest).head? = some '(' then
        drop
        return ← readCounting line limit
      let name ←
        match first with
        | .word segments false =>
            match Word.bare? segments with
            | some text => if isName text then pure text else fail "Bad for loop variable"
            | none => fail "Bad for loop variable"
        | _ => fail "Bad for loop variable"
      let token ← nextToken nested Wanted.laterCommand
      let values ←
        if token.isKeyword "in" then readValues nested ((← size) + 2)
        else do
          if !token.isMark ";" then giveBack token
          pure [[.parameter true (.arguments false) .value]]
      return .each line name values (← readLoopBody limit)

/-- The body of a `for` command. -/
def readLoopBody : Nat → Reading Command
  | 0 => fail "Too deep"
  | limit + 1 => do
      let nested := nestedReading limit
      let opening ← nextToken nested Wanted.laterCommand
      if (← isExtended) && opening.isKeyword "\x7b" then
        let body ← readList false none limit
        expectKeyword nested "\x7d"
        return body
      else
        if !opening.isKeyword "do" then unexpected opening (some "\"do\"")
        let body ← readList false none limit
        expectKeyword nested "done"
        return body

/-- The rest of a `for` command that counts, behind its parentheses. -/
def readCounting (line : Nat) : Nat → Reading Command
  | 0 => fail "Too deep"
  | limit + 1 => do
      let nested := nestedReading limit
      let part : Reading Word := do
        let (found, _) ← readSegments nested (.clause 0) (4 * ((← size) + 1))
        drop
        return found
      let first ← part
      let condition ← part
      let next ← part
      if !(← take? [')']) then fail "syntax error: arithmetic expression required"
      let token ← nextToken nested {}
      if !token.isMark ";" then giveBack token
      return .counting line first condition next (← readLoopBody limit)

/-- The clauses of a `case` command up to its last word. -/
def readClauses : Nat → Reading (List (List Word × Command × ClauseEnd))
  | 0 => fail "Too deep"
  | limit + 1 => do
      let nested := nestedReading limit
      let wanted : Wanted := { skipLines := true, keywords := true }
      let token ← nextToken nested wanted
      if token.isKeyword "esac" then return []
      else do
        let first ← if token.isMark "(" then nextToken nested {} else pure token
        let patterns ← readPatterns nested first ((← size) + 2)
        let body ← readList true none limit
        let after ← nextToken nested wanted
        if after.isKeyword "esac" then return [(patterns, body, .ends)]
        else if after.isMark ";;" then return (patterns, body, .ends) :: (← readClauses limit)
        else if after.isMark ";&" then
          return (patterns, body, .fallsThrough) :: (← readClauses limit)
        else if after.isMark ";;&" then return (patterns, body, .looksOn) :: (← readClauses limit)
        else unexpected after (some "\";;\"")

/-- The commands of a substitution. -/
def nestedReading (limit : Nat) (closed : Bool) : Reading Command :=
  match limit with
  | 0 => fail "Too deep"
  | limit + 1 => do
      let outer := (← get).pending
      modify fun source => { source with pending := [] }
      let body ← readList true none limit
      if closed then
        let token ← nextToken (nestedReading limit) {}
        if !token.isMark ")" then unexpected token (some "\")\"")
      modify fun source => { source with pending := outer ++ source.pending, pushed := none }
      return body

end

/-! ## Lines -/

/-- Commands up to the end of a line, with what stands before them. -/
def readItems (limit : Nat) (before : Option Command) : Nat → Reading (Option Command)
  | 0 => fail "Too long"
  | left + 1 => do
      let nested := nestedReading limit
      match ← nextToken nested Wanted.command with
      | .lineEnd => do
          readDocuments nested
          return some (before.getD .nothing)
      | .scriptEnd => do
          readDocuments nested
          return before
      | token => do
          giveBack token
          let (command, goesOn) ← readItem before limit
          if goesOn then readItems limit (some command) left
          else
            match ← nextToken nested {} with
            | .scriptEnd => do
                readDocuments nested
                return some command
            | other => unexpected other none

/-- The commands of the line in front, if anything is left.  Between two
characters there are at most ten steps of reading. -/
def readLine : Reading (Option Command) := do
  let size ← size
  readItems (10 * (size + 10)) none (size + 2)

end Shell
end SyntaxCensus
