import SyntaxCensus.Host.Decimal.Ratio
import SyntaxCensus.Host.Text.Escapes
import SyntaxCensus.Host.Tools.Records.Program
import SyntaxCensus.Text.Lines

/-!
# Tokens of programs on records

The text of a program falls into numbers, texts, expressions between slashes,
names and marks.  A slash divides behind a value, and begins an expression
elsewhere.

Main definitions:

- `Records.Token`: what the text of a program is made of.
- `Records.tokens`: the tokens of a text.
-/

namespace SyntaxCensus
namespace Records

/-- What the text of a program is made of.  The name of a function that is
called stands directly before a parenthesis. -/
inductive Token where
  | number (value : FloatingNumber)
  | text (written : NarrowText)
  | pattern (written : NarrowText)
  | name (name : NarrowText)
  | called (name : NarrowText)
  | builtin (builtin : Builtin)
  | keyword (word : String)
  | mark (mark : String)
  | lineEnd
  | ending

/-- A token with the number of its line, and how it is shown in complaints. -/
structure Lexeme where
  token : Token
  line : Nat
  shown : NarrowText

/-- Why a text is no program. -/
structure ProgramFault where
  message : NarrowText
  deriving DecidableEq, Repr

/-- The words that cannot be names. -/
def keywords : List String :=
  ["BEGIN", "END", "if", "else", "while", "for", "do", "break", "continue", "next", "nextfile",
    "exit", "return", "delete", "in", "function", "getline", "print", "printf"]

/-- The marks of programs, longer ones first. -/
def marks : List String :=
  ["&&", "||", "==", "!=", "<=", ">=", ">>", "++", "--", "+=", "-=", "*=", "/=", "%=", "^=", "!~",
    "\x7b", "\x7d", "(", ")", "[", "]", ";", ",", "+", "-", "*", "/", "%", "^", "!", "<", ">", "|",
    "?", ":", "~", "$", "="]

/-- A value ends with a token, so that a slash behind it divides. -/
def Token.endsValue : Token → Bool
  | .number _ | .text _ | .pattern _ | .name _ | .builtin _ => true
  | .mark word => word = ")" || word = "]" || word = "++" || word = "--" || word = "$"
  | _ => false

/-- A character that a name may begin with. -/
def isNameStart (c : Char) : Bool :=
  c.isAlpha || c = '_'

/-- A character that a name may hold. -/
def isNameCharacter (c : Char) : Bool :=
  c.isAlphanum || c = '_'

/-- A text between quotation marks without its escapes, what follows, and how
many lines are passed; none if it has no end. -/
def readText (found : NarrowText) : NarrowText → Option (NarrowText × NarrowText)
  | [] => none
  | '"' :: rest => some (found.reverse, rest)
  | '\n' :: _ => none
  | '\\' :: '\n' :: rest => readText found rest
  | '\\' :: c :: rest => readText (c :: '\\' :: found) rest
  | c :: rest => readText (c :: found) rest

/-- A text with its escapes replaced.  A backslash that means nothing stays;
`limit` bounds the number of steps. -/
def unescape : Nat → NarrowText → NarrowText
  | 0, text => text
  | _, [] => []
  | limit + 1, '\\' :: c :: rest =>
      let octal := EscapeStyle.digitsInFront 8 3 (c :: rest)
      if !octal.isEmpty then
        EscapeStyle.octet (Numeral.ofDigits 8 octal) ::
          unescape limit ((c :: rest).drop octal.length)
      else if c = '"' then c :: unescape limit rest
      else if c = 'x' ∧ rest.head?.any (Numeral.isDigitOf 16) = true then
        let digits := EscapeStyle.digitsInFront 16 2 rest
        EscapeStyle.octet (Numeral.ofDigits 16 digits) :: unescape limit (rest.drop digits.length)
      else if c = 'e' then '\\' :: c :: unescape limit rest
      else
        match EscapeStyle.letter? c with
        | some meant => meant :: unescape limit rest
        | none => '\\' :: c :: unescape limit rest
  | limit + 1, c :: rest => c :: unescape limit rest

/-- The text that a written one stands for. -/
def unescaped (written : NarrowText) : NarrowText :=
  unescape written.length written

/-- How far brackets in an expression are read. -/
inductive Brackets where
  | outside
  | opened
  | inside
  deriving DecidableEq, Repr

/-- An expression up to a slash, and what follows; none if it has no end.  A
slash between brackets does not end it, and a bracket that closes them does not
stand first. -/
def readPattern (brackets : Brackets) (found : NarrowText) :
    NarrowText → Option (NarrowText × NarrowText)
  | [] => none
  | '\n' :: _ => none
  | '\\' :: '/' :: rest =>
      readPattern (if brackets = .opened then .inside else brackets) ('/' :: found) rest
  | '\\' :: c :: rest =>
      readPattern (if brackets = .opened then .inside else brackets) (c :: '\\' :: found) rest
  | '/' :: rest =>
      if brackets = .outside then some (found.reverse, rest)
      else readPattern .inside ('/' :: found) rest
  | c :: rest =>
      let after : Brackets :=
        match brackets with
        | .outside => if c = '[' then .opened else .outside
        | .opened => if c = '^' then .opened else .inside
        | .inside => if c = ']' then .outside else .inside
      readPattern after (c :: found) rest

/-- The token of a word. -/
def wordToken (word : NarrowText) (rest : NarrowText) : Token :=
  if keywords.contains (String.ofList word) then .keyword (String.ofList word)
  else
    match builtin? word with
    | some found => .builtin found
    | none => if rest.head? = some '(' then .called word else .name word

/-- The tokens of a text behind those that are found, which stand in reverse;
`limit` bounds their number. -/
def tokensOnto (found : List Lexeme) (line : Nat) :
    Nat → NarrowText → Except ProgramFault (List Lexeme)
  | 0, _ | _, [] => .ok (⟨.ending, line, "end of file".toList⟩ :: found).reverse
  | limit + 1, c :: rest =>
      if c = ' ' ∨ c = '\t' ∨ c = '\r' then tokensOnto found line limit rest
      else if c = '\n' then
        tokensOnto (⟨.lineEnd, line, "end of line".toList⟩ :: found) (line + 1) limit rest
      else if c = '\\' ∧ rest.head? = some '\n' then tokensOnto found (line + 1) limit rest.tail
      else if c = '#' then tokensOnto found line limit (rest.dropWhile (· ≠ '\n'))
      else if c = '"' then
        match readText [] rest with
        | none =>
            .error ⟨s!"line {line}: runaway string constant ".toList ++
              (c :: rest).take 11 ++ " ...".toList⟩
        | some (written, after) =>
            tokensOnto (⟨.text (unescaped written), line, '"' :: written ++ ['"']⟩ :: found) line
              limit after
      else if c.isDigit ∨ c = '.' ∧ rest.head?.any Char.isDigit = true then
        match FloatingNumber.read? FloatingNumber.doubleBits (c :: rest) with
        | some (value, after) =>
            let shown := (c :: rest).take (rest.length + 1 - after.length)
            tokensOnto (⟨.number value, line, shown⟩ :: found) line limit after
        | none => tokensOnto found line limit rest
      else if isNameStart c then
        let word := c :: rest.takeWhile isNameCharacter
        let after := rest.dropWhile isNameCharacter
        tokensOnto (⟨wordToken word after, line, word⟩ :: found) line limit after
      else if c = '/' ∧ found.head?.any (fun last => last.token.endsValue) = false then
        match readPattern .outside [] rest with
        | none =>
            .error ⟨s!"line {line}: runaway regular expression ".toList ++
              (c :: rest).take 11 ++ " ...".toList⟩
        | some (written, after) =>
            tokensOnto (⟨.pattern written, line, '/' :: written ++ ['/']⟩ :: found) line limit after
      else
        match marks.find? fun mark => mark.toList.isPrefixOf (c :: rest) with
        | some mark =>
            tokensOnto (⟨.mark mark, line, mark.toList⟩ :: found) line limit
              (rest.drop (mark.length - 1))
        | none => .error ⟨s!"line {line}: syntax error at or near ".toList ++ [c]⟩

/-- The tokens of a text. -/
def tokens (text : NarrowText) : Except ProgramFault (List Lexeme) :=
  tokensOnto [] 1 text.length text

end Records
end SyntaxCensus
