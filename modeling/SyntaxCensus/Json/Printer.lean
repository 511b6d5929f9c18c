import SyntaxCensus.Decimal.Notation
import SyntaxCensus.Json.Value

/-!
# Document text

A value is printed on one line without blanks, or indented with one member or
item to a line.  Values may be nested to any depth, so printing keeps a list of
what is still to be written instead of descending into the value.

Main definitions:

- `Json.quoted`: a text between quotes with its escapes.
- `Json.compact`: a value on one line.
- `Json.indented`: a value with two blanks of indentation for each level.
-/

namespace SyntaxCensus

/-- A number as it is printed. -/
def Number.text : Number → String
  | .whole value => toString value
  | .double value => value.text

namespace Json

/-- The lower-case hexadecimal digit of a number below sixteen. -/
def hexDigit (n : Nat) : Char :=
  Char.ofNat (if n < 10 then 0x30 + n else 0x57 + n)

/-- A character inside quotes: the quote, the backslash and the characters
below the blank are escaped, all others stand for themselves. -/
def escaped (c : Char) : List Char :=
  if c = '"' then ['\\', '"']
  else if c = '\\' then ['\\', '\\']
  else if c.toNat = 0x08 then ['\\', 'b']
  else if c.toNat = 0x09 then ['\\', 't']
  else if c.toNat = 0x0A then ['\\', 'n']
  else if c.toNat = 0x0C then ['\\', 'f']
  else if c.toNat = 0x0D then ['\\', 'r']
  else if c.toNat < 0x20 then
    ['\\', 'u', '0', '0', hexDigit (c.toNat / 16), hexDigit (c.toNat % 16)]
  else [c]

/-- A text between quotes. -/
def quoted (text : String) : String :=
  String.ofList ('"' :: (text.toList.flatMap escaped ++ ['"']))

/-- How the parts of a value are laid out. -/
inductive Layout where
  | compact
  | indented
  deriving DecidableEq, Repr

namespace Layout

/-- What starts the line of a nested part. -/
def lineStart : Layout → Nat → String
  | .compact, _ => ""
  | .indented, depth => String.ofList ('\n' :: List.replicate (2 * depth) ' ')

/-- What stands between a key and its value. -/
def afterKey : Layout → String
  | .compact => ":"
  | .indented => ": "

end Layout

/-- What is still to be written: a text, or a value of which the text in front
is given. -/
inductive Piece where
  | text (content : String)
  | value (before : String) (depth : Nat) (content : Json)

/-- The items of an array after its bracket, each after a separator. -/
def itemPieces (layout : Layout) (depth : Nat) (separator : String) : List Json → List Piece
  | [] => [.text (layout.lineStart depth ++ "]")]
  | item :: rest =>
      .value (separator ++ layout.lineStart (depth + 1)) (depth + 1) item ::
        itemPieces layout depth "," rest

/-- The members of an object after its brace, each after a separator. -/
def memberPieces (layout : Layout) (depth : Nat) (separator : String) :
    List (String × Json) → List Piece
  | [] => [.text (layout.lineStart depth ++ "\x7d")]
  | (key, item) :: rest =>
      .value (separator ++ layout.lineStart (depth + 1) ++ quoted key ++ layout.afterKey)
          (depth + 1) item ::
        memberPieces layout depth "," rest

/-- The text that begins a value, and what is to be written after it. -/
def opening (layout : Layout) (depth : Nat) : Json → String × List Piece
  | .null => ("null", [])
  | .bool true => ("true", [])
  | .bool false => ("false", [])
  | .number value => (value.text, [])
  | .string value => (quoted value, [])
  | .array [] => ("[]", [])
  | .array (item :: rest) => ("[", itemPieces layout depth "" (item :: rest))
  | .object [] => ("\x7b\x7d", [])
  | .object (member :: rest) => ("\x7b", memberPieces layout depth "" (member :: rest))

/-- A bound on the steps that a piece takes. -/
def Piece.weight : Piece → Nat
  | .text _ => 1
  | .value _ _ content => 2 * content.nodeCount

/-- A bound on the steps that pieces take. -/
def weight : List Piece → Nat
  | [] => 0
  | piece :: rest => piece.weight + weight rest

theorem weight_append (first second : List Piece) :
    weight (first ++ second) = weight first + weight second := by
  induction first with
  | nil => simp [weight]
  | cons piece rest ih => simp only [List.cons_append, weight, ih, Nat.add_assoc]

theorem weight_itemPieces (layout : Layout) (depth : Nat) (separator : String)
    (items : List Json) :
    weight (itemPieces layout depth separator items) = 2 * nodeCountItems items + 1 := by
  induction items generalizing separator with
  | nil => simp [weight, itemPieces, Piece.weight, nodeCountItems]
  | cons item rest ih =>
      have := ih ","
      simp only [weight, itemPieces, Piece.weight, nodeCountItems] at *
      omega

theorem weight_memberPieces (layout : Layout) (depth : Nat) (separator : String)
    (members : List (String × Json)) :
    weight (memberPieces layout depth separator members) = 2 * nodeCountMembers members + 1 := by
  induction members generalizing separator with
  | nil => simp [weight, memberPieces, Piece.weight, nodeCountMembers]
  | cons member rest ih =>
      have := ih ","
      simp only [weight, memberPieces, Piece.weight, nodeCountMembers] at *
      omega

/-- Writing the beginning of a value leaves less to do. -/
theorem weight_opening (layout : Layout) (depth : Nat) (value : Json) :
    weight (opening layout depth value).2 < 2 * value.nodeCount := by
  match value with
  | .null | .number _ | .string _ => simp [opening, weight, nodeCount]
  | .bool true | .bool false => simp [opening, weight, nodeCount]
  | .array [] | .object [] =>
      simp [opening, weight, nodeCount]
  | .array (item :: rest) =>
      simp only [opening, weight_itemPieces, nodeCount]
      omega
  | .object (member :: rest) =>
      simp only [opening, weight_memberPieces, nodeCount]
      omega

/-- Write pieces after a text. -/
def writeOnto (layout : Layout) (written : String) : List Piece → String
  | [] => written
  | .text content :: rest => writeOnto layout (written ++ content) rest
  | .value before depth content :: rest =>
      let begun := opening layout depth content
      writeOnto layout (written ++ before ++ begun.1) (begun.2 ++ rest)
  termination_by pieces => weight pieces
  decreasing_by
    · simp [weight, Piece.weight]
    · have := weight_opening layout depth content
      simp only [weight, weight_append, Piece.weight] at *
      omega

/-- A value on one line. -/
def compact (value : Json) : String :=
  writeOnto .compact "" [.value "" 0 value]

/-- A value with one item or member to a line. -/
def indented (value : Json) : String :=
  writeOnto .indented "" [.value "" 0 value]

end Json
end SyntaxCensus
