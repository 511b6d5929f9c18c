import SyntaxCensus.Host.Shell.Syntax

/-!
# Script text that is being read

Scripts are read from left to right, and the first fault ends the reading.

Main definitions:

- `Shell.Source`: what is left of a script.
- `Shell.Reading`: a step of reading.
-/

namespace SyntaxCensus
namespace Shell

/-- The grave accent, which is an old mark for substitutions. -/
def graveAccent : Char := '\x60'

/-- A character that may begin a name. -/
def isNameStart (c : Char) : Bool :=
  c.isAlpha || c = '_'

/-- A character that a name may hold. -/
def isNameCharacter (c : Char) : Bool :=
  c.isAlphanum || c = '_'

/-- A text can name a variable. -/
def isName : NarrowText → Bool
  | [] => false
  | c :: rest => isNameStart c && rest.all isNameCharacter

/-- What a script is made of: words, and marks between them. -/
inductive Token where
  | lineEnd
  | scriptEnd
  | mark (text : String)
  | keyword (name : String)
  | redirection (redirection : Redirection)
  | word (segments : Word) (quoted : Bool)

/-- A here-document whose text is not reached yet. -/
structure PendingDocument where
  number : Nat
  ending : NarrowText
  quoted : Bool
  indented : Bool
  deriving DecidableEq, Repr

/-- What is left of a script, with what is known from the part before.
`extended` says that it is written in the extended language. -/
structure Source where
  rest : NarrowText
  extended : Bool := false
  line : Nat := 1
  pushed : Option Token := none
  pending : List PendingDocument := []
  documents : Documents := []
  nextDocument : Nat := 0
  aliases : List (NarrowText × NarrowText) := []
  replacing : List (NarrowText × Nat) := []

/-- A step of reading: it takes text from the front of what is left. -/
abbrev Reading (α : Type) := StateT Source (Except SyntaxFault) α

namespace Reading

/-- End with a fault at the line that is reached. -/
def fail {α : Type} (problem : String) : Reading α := do
  throw ⟨problem, (← get).line⟩

/-- What is wrong with a text that ends inside of something. -/
def unclosedProblems : List String :=
  ["Missing '\x7d'", "Missing '))'", "Missing ']'", "Unterminated quoted string",
    "EOF in backquote substitution"]

/-- What the extended language says about a text that ends before a mark. -/
def lacking (mark : Char) : String :=
  String.ofList ("unexpected EOF while looking for matching \x60".toList ++ [mark, '\''])

/-- Read something that a mark has to close.  In the extended language a text
that ends before is a fault of the line where it begins. -/
def enclosed {α : Type} (mark : Char) (reading : Reading α) : Reading α := fun source =>
  match reading source with
  | .ok found => .ok found
  | .error fault =>
      if source.extended && unclosedProblems.contains fault.problem then
        .error ⟨lacking mark, source.line⟩
      else .error fault

/-- What the extended language says about a script that ends too early. -/
def tooShort : String := "syntax error: unexpected end of file"

/-- Read commands that a parenthesis has to close. -/
def parenthesized {α : Type} (reading : Reading α) : Reading α := fun source =>
  match reading source with
  | .ok found => .ok found
  | .error fault =>
      .error (if fault.problem = tooShort then { fault with problem := lacking ')' } else fault)

/-- The text that is left. -/
def rest : Reading NarrowText := return (← get).rest

/-- How many characters are left. -/
def size : Reading Nat := return (← get).rest.length

/-- The script is written in the extended language. -/
def isExtended : Reading Bool := return (← get).extended

/-- Go on with another text. -/
def goOn (rest : NarrowText) : Reading Unit :=
  modify fun source => { source with rest }

/-- Go on behind a text that is taken. -/
def pass (taken : NarrowText) (rest : NarrowText) : Reading Unit :=
  modify fun source => { source with rest, line := source.line + taken.count '\n' }

/-- Skip joined lines. -/
def skipJoins : NarrowText → Nat × NarrowText
  | '\\' :: '\n' :: rest =>
      let (lines, rest) := skipJoins rest
      (lines + 1, rest)
  | text => (0, text)

/-- The next character behind joined lines. -/
def next? : Reading (Option Char) := do
  let source ← get
  let (lines, rest) := skipJoins source.rest
  set { source with rest, line := source.line + lines }
  return rest.head?

/-- Take a character that is not a line end. -/
def drop : Reading Unit :=
  modify fun source => { source with rest := source.rest.tail }

/-- Take a text if it is next, behind joined lines. -/
def take? (text : NarrowText) : Reading Bool := do
  let _ ← next?
  let rest ← rest
  if text.isPrefixOf rest then
    goOn (rest.drop text.length)
    return true
  else return false

/-- Take the characters in front that satisfy a test. -/
def takeWhile (test : Char → Bool) : Reading NarrowText := do
  let rest ← rest
  let taken := rest.takeWhile test
  pass taken (rest.dropWhile test)
  return taken

end Reading
end Shell
end SyntaxCensus
