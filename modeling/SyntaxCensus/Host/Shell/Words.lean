import SyntaxCensus.Host.Shell.Source
import SyntaxCensus.Host.Text.Escapes

/-!
# Reading words

A word ends at a blank, a line end or a mark of the grammar that stands
outside quotes.  Single quotes protect every character, double quotes all but
the dollar sign, the grave accent and the backslash, and a backslash the
character after it.  How the commands of a substitution are read is a
parameter.

Main definitions:

- `Shell.readWord`: the word in front.
- `Shell.readDocuments`: the texts of the here-documents that are due.
-/

namespace SyntaxCensus
namespace Shell

open Shell.Reading

/-- A mark that ends a word. -/
def isMark (c : Char) : Bool :=
  [' ', '\t', '\n', ';', '&', '|', '<', '>', '(', ')'].contains c

/-- A blank or a line end. -/
def isBlankMark (c : Char) : Bool :=
  c = ' ' || c = '\t' || c = '\n'

/-- What surrounds the part of a word that is read: nothing, braces of a
parameter, double quotes, braces between double quotes, the text of a
here-document, or the parentheses of a calculation, of which some are open.  In
the extended language there are also the operand of a condition, the index of
an element, the pattern before a slash in braces, an offset in braces, and a
part of a calculation up to a semicolon. -/
inductive Enclosure where
  | operand (depth : Nat)
  | index (depth : Nat)
  | slashed
  | offset (depth : Nat)
  | clause (depth : Nat)
  | bare
  | braces
  | quotes
  | quotedBraces (inner : Bool)
  | document
  | calculation (depth : Nat)
  deriving DecidableEq, Repr

namespace Enclosure

/-- What stands in an enclosure stays whole. -/
def isQuoted : Enclosure → Bool
  | bare | braces | operand _ | slashed => false
  | _ => true

/-- A character that stands for itself, and does not end the part. -/
def isPlain (enclosure : Enclosure) (c : Char) : Bool :=
  if c = '\\' ∨ c = '$' ∨ c = graveAccent then false
  else
    match enclosure with
    | bare => !(isMark c || c = '\'' || c = '"')
    | braces => !(c = '\x7d' || c = '\'' || c = '"')
    | quotes => c ≠ '"'
    | quotedBraces _ => !(c = '\x7d' || c = '"')
    | document => true
    | calculation _ => !(c = '(' || c = ')')
    | operand _ => !(isBlankMark c || c = '(' || c = ')' || c = '\'' || c = '"')
    | index _ => !(c = '[' || c = ']' || c = '\'' || c = '"')
    | slashed => !(c = '/' || c = '\x7d' || c = '\'' || c = '"')
    | offset _ => !(c = '(' || c = ')' || c = ':' || c = '\x7d')
    | clause _ => !(c = '(' || c = ')' || c = ';')

/-- A character that a backslash takes its meaning from. -/
def isProtectable (enclosure : Enclosure) (c : Char) : Bool :=
  match enclosure with
  | bare | braces | operand _ | slashed => true
  | quotes | calculation _ | index _ | offset _ | clause _ =>
      c = '\\' || c = '$' || c = graveAccent || c = '"'
  | quotedBraces _ => c = '\\' || c = '$' || c = graveAccent || c = '"' || c = '\x7d'
  | document => c = '\\' || c = '$' || c = graveAccent

/-- The part ends at a character, which `rest` follows. -/
def endsAt (enclosure : Enclosure) (c : Char) (rest : NarrowText) : Bool :=
  match enclosure with
  | bare => isMark c
  | braces => c = '\x7d'
  | quotes => c = '"'
  | quotedBraces inner => c = '\x7d' && !inner
  | document => false
  | calculation depth => c = ')' && depth = 0 && rest.head? = some ')'
  | operand depth => depth = 0 && (isBlankMark c || c = ')')
  | index depth => c = ']' && depth = 0
  | slashed => c = '/' || c = '\x7d'
  | offset depth => depth = 0 && (c = ':' || c = '\x7d')
  | clause depth => depth = 0 && (c = ';' || c = ')')

/-- What is wrong if the text ends here. -/
def unclosed? : Enclosure → Option String
  | bare | document => none
  | braces => some "Missing '\x7d'"
  | quotes | quotedBraces _ => some "Unterminated quoted string"
  | calculation _ | clause _ => some "Missing '))'"
  | operand _ => none
  | index _ => some "Missing ']'"
  | slashed | offset _ => some "Missing '\x7d'"

/-- The enclosure inside a further pair of parentheses or brackets, or behind
one. -/
def nest (opens : Bool) : Enclosure → Enclosure
  | calculation depth => calculation (if opens then depth + 1 else depth - 1)
  | operand depth => operand (if opens then depth + 1 else depth - 1)
  | index depth => index (if opens then depth + 1 else depth - 1)
  | offset depth => offset (if opens then depth + 1 else depth - 1)
  | clause depth => clause (if opens then depth + 1 else depth - 1)
  | other => other

/-- The enclosure of the word after an operation on a parameter. -/
def inBraces (trims : Bool) : Enclosure → Enclosure
  | bare | braces | operand _ | slashed => braces
  | _ => if trims then braces else quotedBraces false

end Enclosure

/-! ## Parameters -/

/-- The parameter that a mark names. -/
def markedParameter? : Char → Option Parameter
  | '@' => some (.arguments false)
  | '*' => some (.arguments true)
  | '#' => some .argumentCount
  | '?' => some .lastStatus
  | '$' => some .processNumber
  | '!' => some .lastJob
  | '-' => some .options
  | c => if c.isDigit then some (.argument (c.toNat - '0'.toNat)) else none

/-- The number that decimal digits spell. -/
def decimalValue (digits : NarrowText) : Nat :=
  digits.foldl (fun value c => value * 10 + (c.toNat - '0'.toNat)) 0

/-- The name or number of a parameter, if one is next. -/
def readParameterName? : Reading (Option Parameter) := do
  match ← next? with
  | none => return none
  | some c =>
      if isNameStart c then return some (.variable (← takeWhile isNameCharacter))
      else if c.isDigit then return some (.argument (decimalValue (← takeWhile Char.isDigit)))
      else return none

/-- The parameter between braces, and whether its length is asked for. -/
def readBracedParameter? : Reading (Option (Parameter × Bool)) := do
  match ← readParameterName? with
  | some parameter => return some (parameter, false)
  | none =>
      match ← rest with
      | '#' :: c :: more =>
          if c = '_' ∨ c.isAlphanum then do
            goOn (c :: more)
            return (← readParameterName?).map fun parameter => (parameter, true)
          else if c ≠ '\x7d' ∧ more.head? = some '\x7d' then
            match markedParameter? c with
            | some parameter => do
                goOn more
                return some (parameter, true)
            | none => do
                goOn (c :: more)
                return some (.argumentCount, false)
          else do
            goOn (c :: more)
            return some (.argumentCount, false)
      | c :: more =>
          match markedParameter? c with
          | some parameter => do
              goOn more
              return some (parameter, false)
          | none => return none
      | [] => return none

/-- An operation that is written after a parameter in braces. -/
inductive UseMark where
  | none
  | dash
  | equals
  | question
  | plus
  | trim (trimmed : TrimmedEnd) (longest : Bool)
  deriving DecidableEq, Repr

/-- The operation after a parameter in braces, if what is there is one. -/
def readUseMark? : Reading (Option (Presence × UseMark)) := do
  let needed : Presence := if ← take? [':'] then .filled else .set
  if needed = .set then
    if ← take? ['#', '#'] then return some (needed, .trim .front true)
    if ← take? ['#'] then return some (needed, .trim .front false)
    if ← take? ['%', '%'] then return some (needed, .trim .back true)
    if ← take? ['%'] then return some (needed, .trim .back false)
  if ← take? ['-'] then return some (needed, .dash)
  if ← take? ['='] then return some (needed, .equals)
  if ← take? ['?'] then return some (needed, .question)
  if ← take? ['+'] then return some (needed, .plus)
  if (← next?) = some '\x7d' then return some (needed, .none)
  return none

/-- What an operation with a word does with a parameter. -/
def UseMark.toUse (needed : Presence) (word : Word) : UseMark → Use
  | none => .value
  | dash => .fallback needed word
  | equals => .assignment needed word
  | question => .complaint needed word
  | plus => .alternative needed word
  | trim trimmed longest => .trim trimmed longest word

/-! ## Segments -/

/-- Reads the commands of a substitution; the flag says that a parenthesis
closes them. -/
abbrev NestedReading := Bool → Reading Command

/-- Read from another text, and go on behind the present place. -/
def within {α : Type} (text : NarrowText) (line : Nat) (reading : Reading α) : Reading α := do
  let outer ← get
  set { outer with rest := text, line, pushed := none, pending := [] }
  let found ← reading
  let inner ← get
  set { outer with documents := inner.documents, nextDocument := inner.nextDocument }
  return found

/-- The text up to a grave accent, at most `limit` characters of it. -/
def readAccented (quoted : Bool) : Nat → Reading NarrowText
  | 0 => fail "EOF in backquote substitution"
  | limit + 1 => do
      match ← next? with
      | none => fail "EOF in backquote substitution"
      | some c => do
          if c = graveAccent then
            drop
            return []
          else if c = '\\' then do
            drop
            match ← rest with
            | [] => fail "EOF in backquote substitution"
            | d :: more => do
                pass [d] more
                let others ← readAccented quoted limit
                let isBare := d = '\\' || d = graveAccent || d = '$' || (quoted && d = '"')
                return if isBare then d :: others else '\\' :: d :: others
          else do
            pass [c] (← rest).tail
            return c :: (← readAccented quoted limit)

/-- The text between single quotes. -/
def readSingleQuoted : Reading NarrowText := do
  drop
  let inside ← takeWhile (· ≠ '\'')
  if (← rest).isEmpty then fail "Unterminated quoted string"
  drop
  return inside

/-- What a backslash protects, in an enclosure. -/
def readProtected (enclosure : Enclosure) : Reading Segment := do
  drop
  match ← rest with
  | [] => return .literal true ['\\']
  | c :: more => do
      pass [c] more
      return .literal true (if enclosure.isProtectable c then [c] else ['\\', c])

/-- The segments between double quotes, which leave a text behind even if it is
empty.  Only all arguments by themselves may leave none. -/
def withQuotes (inside : Word) : Word :=
  match inside with
  | [.parameter true (.arguments false) .value] => inside
  | [.parameter true (.arguments false) (.cut _ _)] => inside
  | [.parameter true (.elements _ false) _] => inside
  | [.keys true _ false] => inside
  | _ => .literal true [] :: inside

/-- The text up to a single quote with its escapes replaced; at most `limit`
steps. -/
def readEscapedQuotes (found : NarrowText) : Nat → Reading NarrowText
  | 0 => return found.reverse
  | limit + 1 => do
      match ← rest with
      | [] => fail "Unterminated quoted string"
      | '\'' :: more => do
          goOn more
          return found.reverse
      | '\\' :: more => do
          let (meaning, size) := EscapeStyle.quotedText.read more
          pass (more.take size) (more.drop size)
          readEscapedQuotes (meaning.reverse ++ found) limit
      | c :: more => do
          pass [c] more
          readEscapedQuotes (c :: found) limit

/-- The segment of an element, or of all elements of a variable. -/
def elementSegment (quoted : Bool) (name : NarrowText) (index : Word) (use : Use) : Segment :=
  match index with
  | [.literal true ['@']] => .parameter quoted (.elements name false) use
  | [.literal true ['*']] => .parameter quoted (.elements name true) use
  | _ => .element quoted name index use

mutual

/-- The segments up to the end of an enclosure, and whether there are quotes
among them.  The number of steps is limited. -/
def readSegments (nested : NestedReading) (enclosure : Enclosure) :
    Nat → Reading (Word × Bool)
  | 0 => return ([], false)
  | limit + 1 => do
      match ← next? with
      | none =>
          match enclosure.unclosed? with
          | some problem => fail problem
          | none => return ([], false)
      | some c =>
          if enclosure.endsAt c (← rest).tail then return ([], false)
          else if enclosure.isPlain c then do
            let text ← takeWhile enclosure.isPlain
            let (others, quoted) ← readSegments nested enclosure limit
            return (.literal enclosure.isQuoted text :: others, quoted)
          else if c = '$' then do
            drop
            let segment ← readDollar nested enclosure limit
            let (others, quoted) ← readSegments nested enclosure limit
            return (segment :: others, quoted)
          else if c = graveAccent then do
            drop
            let steps := (← size) + 1
            let text ← enclosed graveAccent (readAccented enclosure.isQuoted steps)
            let body ← within text 1 (nested false)
            let (others, quoted) ← readSegments nested enclosure limit
            return (.substitution enclosure.isQuoted body :: others, quoted)
          else if c = '\\' then do
            let segment ← readProtected enclosure
            let (others, _) ← readSegments nested enclosure limit
            return (segment :: others, true)
          else
            match enclosure with
            | .operand _ | .index _ | .slashed | .bare | .braces => do
                if c ≠ '\'' ∧ c ≠ '"' then
                  drop
                  let inside := enclosure.nest (c = '(' || c = '[')
                  let (others, quoted) ← readSegments nested inside limit
                  return (.literal enclosure.isQuoted [c] :: others, quoted)
                let segments ←
                  if c = '\'' then
                    pure [.literal true (← enclosed '\'' readSingleQuoted)]
                  else do
                    drop
                    let (inside, _) ← enclosed '"' (readSegments nested .quotes limit)
                    drop
                    pure (withQuotes inside)
                let (others, _) ← readSegments nested enclosure limit
                return (segments ++ others, true)
            | .quotedBraces inner => do
                if c = '"' then
                  drop
                  readSegments nested (.quotedBraces !inner) limit
                else do
                  drop
                  let (others, quoted) ← readSegments nested enclosure limit
                  return (.literal true [c] :: others, quoted)
            | .calculation _ | .offset _ | .clause _ => do
                drop
                let (others, quoted) ← readSegments nested (enclosure.nest (c = '(')) limit
                return (.literal true [c] :: others, quoted)
            | .quotes | .document => do
                drop
                let (others, quoted) ← readSegments nested enclosure limit
                return (.literal true [c] :: others, quoted)

/-- The segment that a dollar sign begins. -/
def readDollar (nested : NestedReading) (enclosure : Enclosure) : Nat → Reading Segment
  | 0 => return .literal enclosure.isQuoted ['$']
  | limit + 1 => do
      let quoted := enclosure.isQuoted
      if ← take? ['('] then
        if ← take? ['('] then do
          let (expression, _) ← enclosed ')' (readSegments nested (.calculation 0) limit)
          drop
          drop
          return .arithmetic quoted expression
        else return .substitution quoted (← parenthesized (nested true))
      else if ← take? ['\x7b'] then
        if ← isExtended then enclosed '\x7d' (readExtended nested enclosure limit)
        else readBraced nested enclosure limit
      else if (← isExtended) && !quoted && (← next?) = some '\'' then
        drop
        let steps := (← size) + 1
        return .literal true (← enclosed '\'' (readEscapedQuotes [] steps))
      else if (← isExtended) && !quoted && (← next?) = some '"' then
        return .literal true []
      else
        match ← next? with
        | none => return .literal quoted ['$']
        | some c =>
            match markedParameter? c with
            | some parameter => do
                drop
                return .parameter quoted parameter .value
            | none =>
                match ← readParameterName? with
                | some parameter => return .parameter quoted parameter .value
                | none => return .literal quoted ['$']

/-- The segment of a parameter in braces in the extended language. -/
def readExtended (nested : NestedReading) (enclosure : Enclosure) : Nat → Reading Segment
  | 0 => return .malformed
  | limit + 1 => do
      let quoted := enclosure.isQuoted
      let malformed : Reading Segment := do
        let _ ← readSegments nested (enclosure.inBraces false) limit
        drop
        return .malformed
      let closed (segment : Segment) : Reading Segment := do
        if ← take? ['\x7d'] then return segment else malformed
      match ← rest with
      | '!' :: '#' :: '\x7d' :: more => do
          goOn more
          return .named quoted .argumentCount .value
      | '!' :: c :: more =>
          if isNameStart c || c.isDigit then do
            goOn (c :: more)
            match ← readParameterName? with
            | none => malformed
            | some parameter =>
                match parameter with
                | .variable name => do
                    if ← take? ['[', '@', ']'] then closed (.keys quoted name false)
                    else if ← take? ['[', '*', ']'] then closed (.keys quoted name true)
                    else
                      match ← readUse nested enclosure limit with
                      | some use => return .named quoted parameter use
                      | none => malformed
                | _ =>
                    match ← readUse nested enclosure limit with
                    | some use => return .named quoted parameter use
                    | none => malformed
          else readBraced nested enclosure limit
      | '#' :: c :: more =>
          if isNameStart c then do
            let name := c :: more.takeWhile isNameCharacter
            match more.dropWhile isNameCharacter with
            | '[' :: after => do
                goOn after
                let (index, _) ← readSegments nested (.index 0) limit
                drop
                closed (elementSegment quoted name index .length)
            | _ => readBraced nested enclosure limit
          else readBraced nested enclosure limit
      | _ => do
          match ← readBracedParameter? with
          | none => malformed
          | some (parameter, true) => closed (.parameter quoted parameter .length)
          | some (.variable name, false) => do
              if ← take? ['['] then
                let (index, _) ← readSegments nested (.index 0) limit
                drop
                match ← readUse nested enclosure limit with
                | some use => return elementSegment quoted name index use
                | none => malformed
              else
                match ← readUse nested enclosure limit with
                | some use => return .parameter quoted (.variable name) use
                | none => malformed
          | some (parameter, false) => do
              match ← readUse nested enclosure limit with
              | some use => return .parameter quoted parameter use
              | none => malformed

/-- The use of a parameter in the extended language up to the brace that closes
it, if what is there is one. -/
def readUse (nested : NestedReading) (enclosure : Enclosure) : Nat → Reading (Option Use)
  | 0 => return none
  | limit + 1 => do
      let word : Reading Word := do
        let (word, _) ← readSegments nested (enclosure.inBraces true) limit
        drop
        return word
      let slashed (place : ReplacedPlace) : Reading (Option Use) := do
        let (pattern, _) ← readSegments nested .slashed limit
        if ← take? ['/'] then return some (.replacement place pattern (← word))
        else do
          drop
          return some (.replacement place pattern [])
      let letters (upper : Bool) (mark : NarrowText) : Reading (Option Use) := do
        let all ← take? mark
        return some (.letters upper all (← word))
      match ← rest with
      | ':' :: c :: _ =>
          if c = '-' ∨ c = '=' ∨ c = '?' ∨ c = '+' then plainUse limit
          else do
            drop
            let (offset, _) ← readSegments nested (.offset 0) limit
            if ← take? [':'] then
              let (length, _) ← readSegments nested (.offset 0) limit
              drop
              return some (.cut offset (some length))
            else do
              drop
              return some (.cut offset none)
      | '/' :: _ => do
          drop
          if ← take? ['/'] then slashed .everywhere
          else if ← take? ['#'] then slashed .front
          else if ← take? ['%'] then slashed .back
          else slashed .first
      | '^' :: _ => do
          drop
          letters true ['^']
      | ',' :: _ => do
          drop
          letters false [',']
      | '@' :: c :: _ => do
          drop
          drop
          if !(← take? ['\x7d']) then return none
          match c with
          | 'Q' => return some .requoted
          | 'U' => return some (.letters true true [])
          | 'L' => return some (.letters false true [])
          | 'u' => return some (.letters true false [])
          | _ => return none
      | _ => plainUse limit
where
  /-- A use that every shell knows. -/
  plainUse (limit : Nat) : Reading (Option Use) := do
    match ← readUseMark? with
    | none => return none
    | some (needed, mark) => do
        let trims :=
          match mark with
          | .trim _ _ => true
          | _ => false
        let (word, _) ← readSegments nested (enclosure.inBraces trims) limit
        drop
        return some (mark.toUse needed word)

/-- The segment of a parameter in braces, behind the brace that opens. -/
def readBraced (nested : NestedReading) (enclosure : Enclosure) : Nat → Reading Segment
  | 0 => return .malformed
  | limit + 1 => do
      let quoted := enclosure.isQuoted
      match ← readBracedParameter? with
      | none => do
          let _ ← readSegments nested (enclosure.inBraces false) limit
          drop
          return .malformed
      | some (parameter, true) => do
          let isClosed := (← next?) = some '\x7d'
          let _ ← readSegments nested (enclosure.inBraces false) limit
          drop
          return if isClosed then .parameter quoted parameter .length else .malformed
      | some (parameter, false) => do
          match ← readUseMark? with
          | none => do
              let _ ← readSegments nested (enclosure.inBraces false) limit
              drop
              return .malformed
          | some (needed, mark) => do
              let trims :=
                match mark with
                | .trim _ _ => true
                | _ => false
              let (word, _) ← readSegments nested (enclosure.inBraces trims) limit
              drop
              return .parameter quoted parameter (mark.toUse needed word)

end

/-- The word in front, and whether there are quotes in it.  Between two
characters there are at most four steps of reading. -/
def readWord (nested : NestedReading) : Reading (Word × Bool) := do
  readSegments nested .bare (4 * ((← size) + 1))

/-! ## Here-documents -/

/-- A line ends in a backslash that joins it to the next one. -/
def isJoined (line : NarrowText) : Bool :=
  (line.reverse.takeWhile (· = '\\')).length % 2 = 1

/-- The lines of a here-document, and the text behind the line that ends it;
`joined` says that the first line belongs to the one before. -/
def documentLines (document : PendingDocument) (joined : Bool) :
    Nat → NarrowText → NarrowText × NarrowText
  | 0, text => ([], text)
  | _, [] => ([], [])
  | limit + 1, text =>
      let line := text.takeWhile (· ≠ '\n')
      let after := text.dropWhile (· ≠ '\n')
      let shown := if document.indented && !joined then line.dropWhile (· = '\t') else line
      if !joined && shown = document.ending then ([], after.tail)
      else
        match after with
        | [] => (shown, [])
        | _ :: more =>
            let (others, rest) :=
              documentLines document (!document.quoted && isJoined line) limit more
            (shown ++ '\n' :: others, rest)

/-- The texts of the here-documents that are due at the end of a line. -/
def readDocuments (nested : NestedReading) : Reading Unit := do
  let due := (← get).pending
  modify fun source => { source with pending := [] }
  for document in due do
    let text ← rest
    let line := (← get).line
    let (inside, after) := documentLines document false (text.length + 1) text
    let word ←
      if document.quoted then pure (Word.ofText inside)
      else
        within inside line do
          let (segments, _) ← readSegments nested .document (4 * (inside.length + 1))
          pure segments
    let taken := text.take (text.length - after.length)
    pass taken after
    modify fun source =>
      { source with documents := (document.number, word) :: source.documents }

end Shell
end SyntaxCensus
