import SyntaxCensus.Json.Mismatch

/-!
# Errors in document text

Why a text is not a document, and where.  A place in the text is given by the
octets that follow it; lines count from one, and a column is the number of
octets since the line began.

A text that is held as a whole is reported at the last octet that was used up,
or at the offending octet after it.  A file is read octet by octet, and an
octet that was looked at has been taken from it, so an error after a look is
reported one octet later than in a text.

Main definitions:

- `Fault`: the reasons, with their messages and categories.
- `Stop`: a reason together with the octets that follow its place.
- `ReadError`: a reason with its line and column.
-/

namespace SyntaxCensus

/-- Why a text is not a document. -/
inductive Fault where
  | endInValue
  | endInList
  | endInObject
  | endInString
  | valueExpected
  | wordExpected
  | numberMalformed
  | numberOutOfRange
  | listSeparatorExpected
  | objectSeparatorExpected
  | colonExpected
  | trailingComma
  | keyNotString
  | controlCharacter
  | escapeUnknown
  | surrogateAlone
  | surrogateUnfinished
  | notUnicode
  | nestedTooDeep
  | trailingCharacters
  | mismatch (reason : Mismatch)
  deriving DecidableEq, Repr

/-- What kind of fault it is: the text ends early, has a value of the wrong
kind, or breaks the grammar. -/
inductive Fault.Category where
  | earlyEnd
  | data
  | grammar
  deriving DecidableEq, Repr

namespace Fault

/-- The text of a fault, without its place. -/
def message : Fault → String
  | .endInValue => "EOF while parsing a value"
  | .endInList => "EOF while parsing a list"
  | .endInObject => "EOF while parsing an object"
  | .endInString => "EOF while parsing a string"
  | .valueExpected => "expected value"
  | .wordExpected => "expected ident"
  | .numberMalformed => "invalid number"
  | .numberOutOfRange => "number out of range"
  | .listSeparatorExpected => "expected `,` or `]`"
  | .objectSeparatorExpected => "expected `,` or `\x7d`"
  | .colonExpected => "expected `:`"
  | .trailingComma => "trailing comma"
  | .keyNotString => "key must be a string"
  | .controlCharacter =>
      "control character (\\u0000-\\u001F) found while parsing a string"
  | .escapeUnknown => "invalid escape"
  | .surrogateAlone => "lone leading surrogate in hex escape"
  | .surrogateUnfinished => "unexpected end of hex escape"
  | .notUnicode => "invalid unicode code point"
  | .nestedTooDeep => "recursion limit exceeded"
  | .trailingCharacters => "trailing characters"
  | .mismatch reason => reason.message

/-- The category of a fault. -/
def category : Fault → Category
  | .endInValue | .endInList | .endInObject | .endInString => .earlyEnd
  | .mismatch _ => .data
  | _ => .grammar

end Fault

/-- How a place relates to the octets that follow it. -/
inductive Place where
  /-- The last octet used up. -/
  | here
  /-- The last octet used up; the octet after it has been looked at. -/
  | hereAfterLook
  /-- The octet after the last one used up. -/
  | next
  deriving DecidableEq, Repr

/-- Where reading stopped and why.  `rest` is what follows the octets used up;
`back` is how many octets before the place the fault lies. -/
structure Stop where
  fault : Fault
  rest : List UInt8
  place : Place
  back : Nat
  deriving DecidableEq, Repr

namespace Stop

/-- A fault at the last octet used up. -/
def here (fault : Fault) (rest : List UInt8) : Stop := ⟨fault, rest, .here, 0⟩

/-- A fault at the octet that follows those used up. -/
def next (fault : Fault) (rest : List UInt8) : Stop := ⟨fault, rest, .next, 0⟩

/-- A fault at the last octet used up, found by looking at the next one. -/
def hereAfterLook (fault : Fault) (rest : List UInt8) : Stop := ⟨fault, rest, .hereAfterLook, 0⟩

end Stop

/-- Where the octets of a document come from. -/
inductive Source where
  | text
  | file
  deriving DecidableEq, Repr

/-- A fault with its line and column; line zero means that it has no place. -/
structure ReadError where
  fault : Fault
  line : Nat
  column : Nat
  deriving DecidableEq, Repr

namespace ReadError

/-- The line and column after octets. -/
def locate (octets : List UInt8) : Nat × Nat :=
  octets.foldl
    (fun place octet => if octet = 0x0A then (place.1 + 1, 0) else (place.1, place.2 + 1)) (1, 0)

/-- How many octets lead up to a place, of a total length. -/
def octetsBefore (source : Source) (total : Nat) (stop : Stop) : Nat :=
  let used := total - stop.rest.length
  let looked := min total (used + 1)
  match stop.place, source with
  | .here, _ => used
  | .next, _ => looked
  | .hereAfterLook, .text => used
  | .hereAfterLook, .file => looked

/-- The error of reading octets that stopped. -/
def ofStop (source : Source) (octets : List UInt8) (stop : Stop) : ReadError :=
  let place := locate (octets.take (octetsBefore source octets.length stop))
  ⟨stop.fault, place.1, place.2 - stop.back⟩

/-- A mismatch in a value that was not read from a text. -/
def ofMismatch (reason : Mismatch) : ReadError :=
  ⟨.mismatch reason, 0, 0⟩

/-- The text of an error, with its place if it has one. -/
def message (e : ReadError) : String :=
  if e.line = 0 then e.fault.message
  else s!"{e.fault.message} at line {e.line} column {e.column}"

end ReadError
end SyntaxCensus
