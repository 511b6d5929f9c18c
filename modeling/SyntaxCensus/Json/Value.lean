import SyntaxCensus.Decimal.Double
import SyntaxCensus.Keyed

/-!
# Document values

The values that compilers answer and that saved reports hold.  A number is a
whole number or a double; members of an object are sorted by key and no key
occurs twice.

Main definitions:

- `Json.WellFormed`: every object in the value is sorted, and every number is
  one that a text can denote.
- `Json.nodeCount`: how many values a value consists of, itself included.
- `Json.children`: the values directly inside a value.
-/

namespace SyntaxCensus

/-- A number as it was written: a whole number, or one with a fraction, an
exponent or too many digits for a whole number. -/
inductive Number where
  | whole (value : Int)
  | double (value : Double)
  deriving DecidableEq, Repr

namespace Number

/-- The largest count and the largest whole number of a document. -/
def maxWhole : Nat := 18446744073709551615

/-- The smallest whole number of a document is the negative of this. -/
def maxNegative : Nat := 9223372036854775808

/-- A whole number of 64 bits, signed or unsigned, or a finite double. -/
def InRange : Number → Prop
  | .whole value => -(maxNegative : Int) ≤ value ∧ value ≤ (maxWhole : Int)
  | .double value => value.magnitude < Double.infiniteMagnitude

/-- Equal to zero, with or without a sign. -/
def isZero : Number → Bool
  | .whole value => decide (value = 0)
  | .double value => value.isZero

end Number

/-- A document value. -/
inductive Json where
  | null
  | bool (value : Bool)
  | number (value : Number)
  | string (value : String)
  | array (items : List Json)
  | object (members : List (String × Json))
  deriving Repr, Inhabited

namespace Json

mutual

/-- Equality of values is decided by descending into both. -/
def decEq : (a b : Json) → Decidable (a = b)
  | .null, .null => isTrue rfl
  | .bool a, .bool b =>
      if h : a = b then isTrue (h ▸ rfl) else isFalse fun e => h (Json.bool.inj e)
  | .number a, .number b =>
      if h : a = b then isTrue (h ▸ rfl) else isFalse fun e => h (Json.number.inj e)
  | .string a, .string b =>
      if h : a = b then isTrue (h ▸ rfl) else isFalse fun e => h (Json.string.inj e)
  | .array a, .array b =>
      match decEqItems a b with
      | isTrue h => isTrue (h ▸ rfl)
      | isFalse h => isFalse fun e => h (Json.array.inj e)
  | .object a, .object b =>
      match decEqMembers a b with
      | isTrue h => isTrue (h ▸ rfl)
      | isFalse h => isFalse fun e => h (Json.object.inj e)
  | .null, .bool _ | .null, .number _ | .null, .string _ | .null, .array _ | .null, .object _
  | .bool _, .null | .bool _, .number _ | .bool _, .string _ | .bool _, .array _
  | .bool _, .object _
  | .number _, .null | .number _, .bool _ | .number _, .string _ | .number _, .array _
  | .number _, .object _
  | .string _, .null | .string _, .bool _ | .string _, .number _ | .string _, .array _
  | .string _, .object _
  | .array _, .null | .array _, .bool _ | .array _, .number _ | .array _, .string _
  | .array _, .object _
  | .object _, .null | .object _, .bool _ | .object _, .number _ | .object _, .string _
  | .object _, .array _ => isFalse nofun

/-- Equality of the items of two arrays. -/
def decEqItems : (a b : List Json) → Decidable (a = b)
  | [], [] => isTrue rfl
  | [], _ :: _ | _ :: _, [] => isFalse nofun
  | x :: xs, y :: ys =>
      match decEq x y, decEqItems xs ys with
      | isTrue h, isTrue hs => isTrue (h ▸ hs ▸ rfl)
      | isFalse h, _ => isFalse fun e => h (List.cons.inj e).1
      | _, isFalse hs => isFalse fun e => hs (List.cons.inj e).2

/-- Equality of the members of two objects. -/
def decEqMembers : (a b : List (String × Json)) → Decidable (a = b)
  | [], [] => isTrue rfl
  | [], _ :: _ | _ :: _, [] => isFalse nofun
  | (k, x) :: xs, (l, y) :: ys =>
      if hk : k = l then
        match decEq x y, decEqMembers xs ys with
        | isTrue h, isTrue hs => isTrue (hk ▸ h ▸ hs ▸ rfl)
        | isFalse h, _ => isFalse fun e => h (Prod.mk.inj (List.cons.inj e).1).2
        | _, isFalse hs => isFalse fun e => hs (List.cons.inj e).2
      else isFalse fun e => hk (Prod.mk.inj (List.cons.inj e).1).1

end

instance : DecidableEq Json := decEq

/-! ## Shape of a value -/

mutual

/-- Every object is sorted without repeated keys and every number is in
range. -/
def WellFormed : Json → Prop
  | .null | .bool _ | .string _ => True
  | .number value => value.InRange
  | .array items => WellFormedItems items
  | .object members => Keyed.Sorted members ∧ WellFormedMembers members

/-- Every item is well formed. -/
def WellFormedItems : List Json → Prop
  | [] => True
  | item :: rest => item.WellFormed ∧ WellFormedItems rest

/-- The value of every member is well formed. -/
def WellFormedMembers : List (String × Json) → Prop
  | [] => True
  | (_, value) :: rest => value.WellFormed ∧ WellFormedMembers rest

end

mutual

/-- The number of objects, arrays and scalars in a value, itself included. -/
def nodeCount : Json → Nat
  | .null | .bool _ | .number _ | .string _ => 1
  | .array items => nodeCountItems items + 1
  | .object members => nodeCountMembers members + 1

/-- The nodes of all items. -/
def nodeCountItems : List Json → Nat
  | [] => 0
  | item :: rest => item.nodeCount + nodeCountItems rest

/-- The nodes of all member values. -/
def nodeCountMembers : List (String × Json) → Nat
  | [] => 0
  | (_, value) :: rest => value.nodeCount + nodeCountMembers rest

end

/-- The values directly inside a value, in order. -/
def children : Json → List Json
  | .array items => items
  | .object members => members.map Prod.snd
  | _ => []

theorem nodeCountMembers_eq (members : List (String × Json)) :
    nodeCountMembers members = nodeCountItems (members.map Prod.snd) := by
  induction members with
  | nil => rfl
  | cons member rest ih => simp [nodeCountMembers, nodeCountItems, ih]

/-- A value is one node more than its children. -/
theorem nodeCount_eq (value : Json) : value.nodeCount = nodeCountItems value.children + 1 := by
  cases value <;> simp [nodeCount, children, nodeCountItems, nodeCountMembers_eq]

theorem nodeCountItems_append (a b : List Json) :
    nodeCountItems (a ++ b) = nodeCountItems a + nodeCountItems b := by
  induction a with
  | nil => simp [nodeCountItems]
  | cons item rest ih => simp [nodeCountItems, ih, Nat.add_assoc]

theorem nodeCountItems_reverse (items : List Json) :
    nodeCountItems items.reverse = nodeCountItems items := by
  induction items with
  | nil => rfl
  | cons item rest ih =>
      rw [List.reverse_cons, nodeCountItems_append, ih]
      simp only [nodeCountItems, Nat.add_zero]
      exact Nat.add_comm _ _

/-! ## Access -/

/-- The value of a member; nothing if the value is no object or has no such
key. -/
def member? (key : String) : Json → Option Json
  | .object members => Keyed.lookup key members
  | _ => none

/-- An object from bindings in any order; of several for one key the last one
counts. -/
def ofBindings (bindings : List (String × Json)) : Json :=
  .object (Keyed.ofBindings bindings)

end Json
end SyntaxCensus
