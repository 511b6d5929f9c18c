import SyntaxCensus.Json.Printer
import SyntaxCensus.Text.Quoted

/-!
# Values of an unexpected kind

A histogram is written as an object of counts.  A value in its place that is
not an object, or a member that is not a count, is described by its kind and,
for scalars, by its value.

Main definitions:

- `Shape`: what a message says of a value.
- `Mismatch`: what was expected where a value of some shape was found.
-/

namespace SyntaxCensus

/-- What a message says of a value: its kind, and a scalar's value. -/
inductive Shape where
  | null
  | bool (value : Bool)
  | number (value : Number)
  | string (value : String)
  | sequence
  | map
  deriving DecidableEq, Repr

namespace Shape

/-- The words for a value in a message. -/
def describe : Shape → String
  | .null => "null"
  | .bool true => "boolean `true`"
  | .bool false => "boolean `false`"
  | .number (.whole value) => "integer `" ++ toString value ++ "`"
  | .number (.double value) => "floating point `" ++ value.text ++ "`"
  | .string value => "string " ++ Diagnostic.quoted value
  | .sequence => "sequence"
  | .map => "map"

/-- The shape of a value. -/
def ofJson : Json → Shape
  | .null => .null
  | .bool value => .bool value
  | .number value => .number value
  | .string value => .string value
  | .array _ => .sequence
  | .object _ => .map

end Shape

/-- A value that is no histogram, or a member of an object that is no count. -/
inductive Mismatch where
  | notMap (found : Shape)
  | notCount (found : Shape)
  | negativeCount (value : Int)
  deriving DecidableEq, Repr

/-- The text of a mismatch. -/
def Mismatch.message : Mismatch → String
  | .notMap found => "invalid type: " ++ found.describe ++ ", expected a map"
  | .notCount found => "invalid type: " ++ found.describe ++ ", expected u64"
  | .negativeCount value => "invalid value: integer `" ++ toString value ++ "`, expected u64"

end SyntaxCensus
