import SyntaxCensus.Json.Printer

/-!
# Document text by the structure of a value

The text of a value is that of its parts between brackets, with separators.
Writing with a list of pieces gives the same text, so what is said about the
structure holds of what is printed.

Main definitions:

- `Json.rendered`: the text of a value at a depth, by recursion on the value.

Main results:

- `Json.writeOnto_eq`: writing pieces appends their texts in order.
- `Json.compact_eq`, `Json.indented_eq`: both printed forms are rendered.
-/

namespace SyntaxCensus
namespace Json

mutual

/-- The text of a value that stands at a depth. -/
def rendered (layout : Layout) (depth : Nat) : Json → String
  | .null => "null"
  | .bool true => "true"
  | .bool false => "false"
  | .number value => value.text
  | .string value => quoted value
  | .array [] => "[]"
  | .array (item :: rest) =>
      "[" ++ (layout.lineStart (depth + 1) ++
        (item.rendered layout (depth + 1) ++ renderedItems layout depth rest))
  | .object [] => "\x7b\x7d"
  | .object ((key, value) :: rest) =>
      "\x7b" ++ (layout.lineStart (depth + 1) ++ (quoted key ++ (layout.afterKey ++
        (value.rendered layout (depth + 1) ++ renderedMembers layout depth rest))))

/-- The text after an item of an array: the items that follow and the bracket
that ends it. -/
def renderedItems (layout : Layout) (depth : Nat) : List Json → String
  | [] => layout.lineStart depth ++ "]"
  | item :: rest =>
      "," ++ (layout.lineStart (depth + 1) ++
        (item.rendered layout (depth + 1) ++ renderedItems layout depth rest))

/-- The text after a member of an object: the members that follow and the
brace that ends it. -/
def renderedMembers (layout : Layout) (depth : Nat) : List (String × Json) → String
  | [] => layout.lineStart depth ++ "\x7d"
  | (key, value) :: rest =>
      "," ++ (layout.lineStart (depth + 1) ++ (quoted key ++ (layout.afterKey ++
        (value.rendered layout (depth + 1) ++ renderedMembers layout depth rest))))

end

/-- The text of pieces in order. -/
def renderedPieces (layout : Layout) : List Piece → String
  | [] => ""
  | .text content :: rest => content ++ renderedPieces layout rest
  | .value before depth content :: rest =>
      before ++ (content.rendered layout depth ++ renderedPieces layout rest)

theorem renderedPieces_append (layout : Layout) (first second : List Piece) :
    renderedPieces layout (first ++ second) =
      renderedPieces layout first ++ renderedPieces layout second := by
  induction first with
  | nil => simp [renderedPieces]
  | cons piece rest ih =>
      cases piece with
      | text content => simp [renderedPieces, ih, String.append_assoc]
      | value before depth content => simp [renderedPieces, ih, String.append_assoc]

/-- The pieces of items are written as the items are. -/
theorem renderedPieces_itemPieces (layout : Layout) (depth : Nat) (items : List Json) :
    renderedPieces layout (itemPieces layout depth "," items) =
      renderedItems layout depth items := by
  induction items with
  | nil => simp [itemPieces, renderedPieces, renderedItems]
  | cons item rest ih =>
      simp [itemPieces, renderedPieces, renderedItems, ih, String.append_assoc]

theorem renderedPieces_memberPieces (layout : Layout) (depth : Nat)
    (members : List (String × Json)) :
    renderedPieces layout (memberPieces layout depth "," members) =
      renderedMembers layout depth members := by
  induction members with
  | nil => simp [memberPieces, renderedPieces, renderedMembers]
  | cons member rest ih =>
      obtain ⟨key, value⟩ := member
      simp [memberPieces, renderedPieces, renderedMembers, ih, String.append_assoc]

/-- The beginning of a value and what is to be written after it are its
text. -/
theorem renderedPieces_opening (layout : Layout) (depth : Nat) (value : Json) :
    (opening layout depth value).1 ++ renderedPieces layout (opening layout depth value).2 =
      value.rendered layout depth := by
  match value with
  | .null | .bool true | .bool false | .number _ | .string _ =>
      simp [opening, rendered, renderedPieces]
  | .array [] | .object [] => simp [opening, rendered, renderedPieces]
  | .array (item :: rest) =>
      simp [opening, rendered, itemPieces, renderedPieces, renderedPieces_itemPieces]
  | .object ((key, item) :: rest) =>
      simp [opening, rendered, memberPieces, renderedPieces, renderedPieces_memberPieces,
        String.append_assoc]

/-- Writing pieces appends their texts in order. -/
theorem writeOnto_eq (layout : Layout) (written : String) (pieces : List Piece) :
    writeOnto layout written pieces = written ++ renderedPieces layout pieces := by
  fun_induction writeOnto layout written pieces with
  | case1 written => simp [renderedPieces]
  | case2 written content rest ih => rw [ih, renderedPieces, String.append_assoc]
  | case3 written before depth content rest begun ih =>
      rw [ih, renderedPieces_append, renderedPieces, ← renderedPieces_opening]
      simp only [String.append_assoc, begun]

/-- The text on one line is the rendered value. -/
theorem compact_eq (value : Json) : value.compact = value.rendered .compact 0 := by
  simp [compact, writeOnto_eq, renderedPieces]

/-- The indented text is the rendered value. -/
theorem indented_eq (value : Json) : value.indented = value.rendered .indented 0 := by
  simp [indented, writeOnto_eq, renderedPieces]

end Json
end SyntaxCensus
