import SyntaxCensus.Histogram.Basic

/-!
# Counting the nodes of a syntax tree

A syntax tree is any document value.  An object in it is a node if one member,
the marker, names its kind.  Every object and array is visited, the marker's
own value included, whatever the other members are called.

The nodes still to visit are kept on a list, so a tree may be nested to any
depth.  `Json.View.visit` is the only loop over such a list: what it does with a
node is a parameter, and so is what stands for a value, so that visits can be
observed without a second loop.  `Histogram.countTree` visits the last child
first; the order is of no consequence.

Main definitions:

- `Json.label?`: the kind that a marker value names.
- `Json.kind?`: the kind of a value under a marker.
- `Json.View.visit`: visit pending nodes and all nodes below them.
- `Histogram.countTree`: count the nodes of a tree.

Main results:

- `Json.View.visit_hom`: visits seen through a map of nodes and states are visits.
-/

namespace SyntaxCensus
namespace Json

/-- The kind that a marker value names: a text that is not empty, a number
other than zero as it is printed, or `true`. -/
def label? : Json → Option String
  | .string text => if text.isEmpty then none else some text
  | .number n => if n.isZero then none else some n.text
  | .bool true => some "true"
  | _ => none

/-- The kind of a node: an object whose marker names one. -/
def kind? (marker : String) (value : Json) : Option String :=
  (value.member? marker).bind label?

/-! ## Visits -/

/-- Nodes that stand for values; those below a node stand for the children of its
value, in order. -/
structure View (Node : Type) where
  value : Node → Json
  below : Node → List Node
  map_below : ∀ node, (below node).map value = (value node).children

namespace View

variable {Node Other σ τ : Type}

/-- Values that stand for themselves. -/
def self : View Json where
  value := id
  below := children
  map_below value := List.map_id value.children

/-- What is pending after a node is taken: the nodes below it come before the others,
the last one first. -/
def push (view : View Node) (node : Node) (rest : List Node) : List Node :=
  (view.below node).reverse ++ rest

/-- What is pending after a node is taken consists of one value less. -/
theorem nodeCountItems_push (view : View Node) (node : Node) (rest : List Node) :
    nodeCountItems ((view.push node rest).map view.value) + 1 =
      nodeCountItems ((node :: rest).map view.value) := by
  rw [push, List.map_append, List.map_reverse, view.map_below, nodeCountItems_append,
    nodeCountItems_reverse, List.map_cons, nodeCountItems, nodeCount_eq]
  omega

theorem map_push {view : View Node} {other : View Other} {node : Node → Other}
    (hbelow : ∀ n, (view.below n).map node = other.below (node n)) (n : Node)
    (rest : List Node) : (view.push n rest).map node = other.push (node n) (rest.map node) := by
  rw [push, push, List.map_append, List.map_reverse, hbelow]

/-- Visit pending nodes, the first one first, and all nodes below them: a node is
taken and does what `take` says to the state, as long as one is pending. -/
def visit (view : View Node) (take : σ → Node → σ) (state : σ) : List Node → σ
  | [] => state
  | node :: rest => view.visit take (take state node) (view.push node rest)
  termination_by pending => nodeCountItems (pending.map view.value)
  decreasing_by
    rw [← view.nodeCountItems_push node rest]
    exact Nat.lt_succ_self _

/-- A map of nodes that keeps what is below them, and a map of states that keeps what
taking a node does, take visits to visits. -/
theorem visit_hom {view : View Node} {other : View Other} {take : σ → Node → σ}
    {takeOther : τ → Other → τ} (node : Node → Other) (state : σ → τ)
    (hbelow : ∀ n, (view.below n).map node = other.below (node n))
    (htake : ∀ s n, state (take s n) = takeOther (state s) (node n))
    (first : σ) (pending : List Node) :
    state (view.visit take first pending) =
      other.visit takeOther (state first) (pending.map node) := by
  fun_induction visit view take first pending with
  | case1 first => rw [List.map_nil, visit]
  | case2 first n rest ih => rw [ih, htake, map_push hbelow, List.map_cons, visit]

end View
end Json

/-! ## Counting -/

namespace Histogram

/-- Count one occurrence of a kind, if there is one. -/
def recordIfSome (h : Histogram) : Option String → Histogram
  | some kind => h.record kind
  | none => h

/-- Count a value, if it is a node. -/
def recordValue (marker : String) (h : Histogram) (value : Json) : Histogram :=
  h.recordIfSome (value.kind? marker)

/-- Count the nodes of the trees on a list. -/
def countPending (marker : String) (h : Histogram) (pending : List Json) : Histogram :=
  Json.View.self.visit (recordValue marker) h pending

/-- Count the nodes of a tree. -/
def countTree (marker : String) (h : Histogram) (tree : Json) : Histogram :=
  countPending marker h [tree]

/-- The histogram of a tree. -/
def ofTree (marker : String) (tree : Json) : Histogram :=
  empty.countTree marker tree

end Histogram
end SyntaxCensus
