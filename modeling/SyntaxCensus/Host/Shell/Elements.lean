import SyntaxCensus.Host.Shell.State

/-!
# Variables with several elements

The elements of a row are in the order of their numbers.  Elements with names
are in an order that depends on the letters of their names alone, and of names
that it does not tell apart the newest comes first.

Main definitions:

- `Elements.put`, `Elements.erase`: change an element.
-/

namespace SyntaxCensus
namespace Shell
namespace Elements

/-- The place of a name among elements with names. -/
def rank (name : NarrowText) : Nat :=
  name.foldl (fun hash c => (hash * 16777619 % 4294967296) ^^^ c.toNat) 2166136261 % 1024

/-- Numbered elements with another one. -/
def insertNumbered (number : Nat) (value : NarrowText) :
    List (Nat × NarrowText) → List (Nat × NarrowText)
  | [] => [(number, value)]
  | (other, text) :: rest =>
      if other < number then (other, text) :: insertNumbered number value rest
      else if other = number then (number, value) :: rest
      else (number, value) :: (other, text) :: rest

/-- Elements with names and a new one. -/
def insertNamed (name value : NarrowText) :
    List (NarrowText × NarrowText) → List (NarrowText × NarrowText)
  | [] => [(name, value)]
  | (other, text) :: rest =>
      if rank other < rank name then (other, text) :: insertNamed name value rest
      else (name, value) :: (other, text) :: rest

/-- The number behind the last element of a row. -/
def nextNumber : Elements → Nat
  | .numbered entries => ((entries.getLast?).map fun element => element.1 + 1).getD 0
  | .named _ => 0

/-- The number that a key stands for; a negative one counts from the end. -/
def number (elements : Elements) (key : Int) : Option Nat :=
  if 0 ≤ key then some key.toNat
  else if 0 ≤ elements.nextNumber + key then some (elements.nextNumber + key).toNat
  else none

/-- Put a value under a number or a name. -/
def put (elements : Elements) (key value : NarrowText) : Elements :=
  match elements with
  | .numbered entries => .numbered (insertNumbered (Numeral.ofDigits 10 key) value entries)
  | .named entries =>
      if entries.any fun element => element.1 = key then
        .named (entries.map fun element => if element.1 = key then (key, value) else element)
      else .named (insertNamed key value entries)

/-- The elements without one. -/
def erase (elements : Elements) (key : NarrowText) : Elements :=
  match elements with
  | .numbered entries =>
      .numbered (entries.filter fun element => element.1 ≠ Numeral.ofDigits 10 key)
  | .named entries => .named (entries.filter fun element => element.1 ≠ key)

/-- The row of some values. -/
def ofValues (values : List NarrowText) : Elements :=
  .numbered (values.zipIdx.map fun (value, number) => (number, value))

end Elements
end Shell
end SyntaxCensus
