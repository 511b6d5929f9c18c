import SyntaxCensus.Proofs.Histogram.Counts
import SyntaxCensus.Proofs.Histogram.Occurrences

/-!
# Visiting the nodes of a tree

A count keeps the nodes that it has not visited yet on a list.  It takes one of them,
counts it, and puts its children on the list, until nothing is pending.  Which of the
pending nodes is taken is of no consequence: every run takes each node of the tree
once, and so all runs are equally long and end with the same histogram.

What carries the proof is that the nodes taken so far, together with all nodes at or
below a pending one, are the nodes of the tree at every moment, in some order.

Main definitions:

- `Json.valueAt?`: the value at a position of a tree.
- `Json.Located`: a node with its position, and `Json.Located.nodes` all nodes at or
  below it.
- `Json.VisitsOnce`: nodes are those of a tree, each one once.
- `Tally`, `Tally.Takes`, `Tally.Runs`: a count under way, one visit to any pending
  node, and any number of them.
- `Histogram.countLocated`: the loop of the count over nodes with their positions,
  which keeps the nodes that it takes.

Main results:

- `Tally.Takes.ahead_perm`, `Tally.Runs.ahead_perm`: what one visit and what a run
  leave to be visited.
- `Histogram.countLocated_eq`, `Histogram.runs_visit`: the loop counts the same with
  and without positions, and it is one of the runs.
- `Histogram.countTree_visits_once`: all runs visit each node once and count alike.
-/

namespace SyntaxCensus
namespace Json

/-! ## Positions -/

/-- A position in a tree: which child is entered, level by level from the root. -/
abbrev Position := List Nat

/-- The value at a position of a tree. -/
def valueAt? (tree : Json) : Position → Option Json
  | [] => some tree
  | index :: rest => tree.children[index]?.bind fun child => child.valueAt? rest

/-- A node of a tree: a value and the position where it stands. -/
@[ext]
structure Located where
  position : Position
  value : Json

/-- The children of a value are smaller than it. -/
theorem nodeCount_lt_of_mem_children {child value : Json} (h : child ∈ value.children) :
    child.nodeCount < value.nodeCount := by
  obtain ⟨before, after, hsplit⟩ := List.append_of_mem h
  rw [nodeCount_eq value, hsplit, nodeCountItems_append, nodeCountItems]
  omega

namespace Located

/-- A tree as the node at its root. -/
def root (tree : Json) : Located :=
  ⟨[], tree⟩

/-- The nodes directly below a node, in order. -/
def children (node : Located) : List Located :=
  node.value.children.mapIdx fun index child => ⟨node.position ++ [index], child⟩

/-- The located children are the children, with where they stand. -/
theorem map_value_children (node : Located) :
    node.children.map Located.value = node.value.children := by
  refine List.ext_getElem? fun index => ?_
  simp [children, List.getElem?_mapIdx, Function.comp_def]

/-- Nodes stand for their values. -/
def view : View Located where
  value := value
  below := children
  map_below := map_value_children

theorem mem_children_iff {node child : Located} :
    child ∈ node.children ↔
      ∃ index, node.value.children[index]? = some child.value ∧
        child.position = node.position ++ [index] := by
  rw [children, List.mem_mapIdx]
  constructor
  · rintro ⟨index, hindex, rfl⟩
    exact ⟨index, List.getElem?_eq_getElem hindex, rfl⟩
  · rintro ⟨index, hvalue, hposition⟩
    obtain ⟨hindex, hchild⟩ := List.getElem?_eq_some_iff.mp hvalue
    refine ⟨index, hindex, ?_⟩
    rw [hchild, ← hposition]

theorem position_getElem_children (node : Located) {index : Nat}
    (h : index < node.children.length) :
    (node.children[index]).position = node.position ++ [index] := by
  simp [children]

/-- All nodes at or below a node. -/
def nodes (node : Located) : List Located :=
  node :: node.children.attach.flatMap fun child => child.1.nodes
termination_by node.value.nodeCount
decreasing_by
  refine nodeCount_lt_of_mem_children ?_
  rw [← map_value_children]
  exact List.mem_map_of_mem child.2

/-- The nodes of a tree are its root and those of its children. -/
theorem nodes_eq (node : Located) : node.nodes = node :: node.children.flatMap nodes := by
  rw [nodes]
  simp

/-- What holds of a node if it holds of its children holds of every node. -/
theorem children_induction {motive : Located → Prop}
    (inside : ∀ node : Located, (∀ child ∈ node.children, motive child) → motive node)
    (node : Located) : motive node := by
  induction node using nodes.induct with
  | case1 node ih => exact inside node fun child hchild => ih ⟨child, hchild⟩

/-- There are as many nodes as the values have. -/
theorem length_flatMap_nodes {located : List Located}
    (h : ∀ node ∈ located, node.nodes.length = node.value.nodeCount) :
    (located.flatMap nodes).length = nodeCountItems (located.map Located.value) := by
  induction located with
  | nil => rfl
  | cons node rest ih =>
      obtain ⟨hnode, hrest⟩ := List.forall_mem_cons.mp h
      rw [List.flatMap_cons, List.length_append, hnode, ih hrest, List.map_cons, nodeCountItems]

/-- There are as many nodes at or below a node as its value consists of. -/
theorem length_nodes (node : Located) : node.nodes.length = node.value.nodeCount := by
  induction node using children_induction with
  | inside node ih =>
      rw [nodes_eq, List.length_cons, length_flatMap_nodes ih, map_value_children, nodeCount_eq]

/-- The nodes at or below a node are the values at positions in its value. -/
theorem mem_nodes_iff {node other : Located} :
    other ∈ node.nodes ↔
      ∃ below, other.position = node.position ++ below ∧
        node.value.valueAt? below = some other.value := by
  induction node using children_induction with
  | inside node ih =>
      rw [nodes_eq, List.mem_cons, List.mem_flatMap]
      constructor
      · rintro (rfl | ⟨child, hchild, hother⟩)
        · exact ⟨[], (List.append_nil _).symm, rfl⟩
        · obtain ⟨below, hposition, hvalue⟩ := (ih child hchild).mp hother
          obtain ⟨index, hindex, hchild⟩ := mem_children_iff.mp hchild
          refine ⟨index :: below, ?_, ?_⟩
          · rw [hposition, hchild, List.append_assoc, List.singleton_append]
          · rw [valueAt?, hindex, Option.bind_some, hvalue]
      · rintro ⟨below, hposition, hvalue⟩
        cases below with
        | nil =>
            rw [List.append_nil] at hposition
            exact .inl (Located.ext hposition (Option.some.inj hvalue).symm)
        | cons index below =>
            obtain ⟨child, hindex, hbelow⟩ := Option.bind_eq_some_iff.mp hvalue
            have hchild : ⟨node.position ++ [index], child⟩ ∈ node.children :=
              mem_children_iff.mpr ⟨index, hindex, rfl⟩
            refine .inr ⟨_, hchild, (ih _ hchild).mpr ⟨below, ?_, hbelow⟩⟩
            rw [hposition, List.append_assoc, List.singleton_append]

/-- No two nodes at or below a node have the same position. -/
theorem pairwise_nodes (node : Located) :
    node.nodes.Pairwise fun first second => first.position ≠ second.position := by
  induction node using children_induction with
  | inside node ih =>
      rw [nodes_eq, List.pairwise_cons, List.pairwise_flatMap]
      refine ⟨?head, ih, ?apart⟩
      case head =>
        intro other hother heq
        obtain ⟨child, hchild, hother⟩ := List.mem_flatMap.mp hother
        obtain ⟨below, hposition, -⟩ := mem_nodes_iff.mp hother
        obtain ⟨index, -, hindex⟩ := mem_children_iff.mp hchild
        rw [hposition, hindex, List.append_assoc] at heq
        simpa using congrArg List.length heq
      case apart =>
        rw [List.pairwise_iff_getElem]
        intro i j hi hj hlt first hfirst second hsecond heq
        obtain ⟨below, hbelow, -⟩ := mem_nodes_iff.mp hfirst
        obtain ⟨below', hbelow', -⟩ := mem_nodes_iff.mp hsecond
        -- Below different children the positions differ in the index of the child.
        rw [hbelow, hbelow', position_getElem_children, position_getElem_children,
          List.append_assoc, List.append_assoc, List.append_cancel_left_eq] at heq
        exact Nat.ne_of_lt hlt (List.cons.inj heq).1

end Located

/-- Nodes are those of a tree, each one once: no two of them stand at one position, and at
every position of the tree stands the one with the value there. -/
structure VisitsOnce (tree : Json) (taken : List Located) : Prop where
  nodup_positions : (taken.map Located.position).Nodup
  mem_iff : ∀ position value, ⟨position, value⟩ ∈ taken ↔ tree.valueAt? position = some value

/-- The nodes of a tree in any order are its nodes, each one once. -/
theorem visitsOnce_of_perm {tree : Json} {taken : List Located}
    (h : taken.Perm (Located.root tree).nodes) : tree.VisitsOnce taken where
  nodup_positions :=
    (h.map Located.position).nodup_iff.mpr (List.pairwise_map.mpr (Located.pairwise_nodes _))
  mem_iff position value := by
    rw [h.mem_iff, Located.mem_nodes_iff]
    simp [Located.root]

end Json

/-! ## Counts under way -/

/-- A count under way: the nodes that are pending, and what has been counted. -/
structure Tally where
  pending : List Json.Located
  counted : Histogram

/-- A histogram after a node has been counted. -/
def Histogram.recordNode (marker : String) (h : Histogram) (node : Json.Located) : Histogram :=
  h.recordValue marker node.value

namespace Tally

/-- The count of a tree into a histogram begins with its root. -/
def start (h : Histogram) (tree : Json) : Tally :=
  ⟨[.root tree], h⟩

/-- A node among those that are pending is taken and counted, and its children become
pending.  `Json.View.visit` takes nodes with none before them. -/
inductive Takes (marker : String) : Tally → Json.Located → Tally → Prop
  | visit (before after : List Json.Located) (node : Json.Located) (counted : Histogram) :
      Takes marker ⟨before ++ node :: after, counted⟩ node
        ⟨Json.Located.view.push node (before ++ after), counted.recordNode marker node⟩

/-- Any number of nodes are taken, one after another. -/
inductive Runs (marker : String) : Tally → List Json.Located → Tally → Prop
  | done (tally : Tally) : Runs marker tally [] tally
  | take {tally next last : Tally} {node : Json.Located} {others : List Json.Located}
      (first : Takes marker tally node next) (rest : Runs marker next others last) :
      Runs marker tally (node :: others) last

/-- All nodes that have to be visited: those at or below a pending one. -/
def ahead (tally : Tally) : List Json.Located :=
  tally.pending.flatMap Json.Located.nodes

section Runs

variable {marker : String} {tally next last : Tally} {node : Json.Located}
  {taken : List Json.Located}

/-- A visit takes a node away from those ahead. -/
theorem Takes.ahead_perm (h : Takes marker tally node next) :
    tally.ahead.Perm (node :: next.ahead) := by
  obtain ⟨before, after, node, counted⟩ := h
  calc (before ++ node :: after).flatMap Json.Located.nodes
    List.Perm _ ((node :: (before ++ after)).flatMap Json.Located.nodes) :=
        List.perm_middle.flatMap_right _
    _ = node :: (node.children ++ (before ++ after)).flatMap Json.Located.nodes := by
        rw [List.flatMap_cons, node.nodes_eq, List.cons_append, ← List.flatMap_append]
    List.Perm _ (node :: (node.children.reverse ++ (before ++ after)).flatMap Json.Located.nodes) :=
        ((node.children.reverse_perm.symm.append_right _).flatMap_right _).cons _

/-- A run takes nodes away from those ahead. -/
theorem Runs.ahead_perm (h : Runs marker tally taken last) :
    tally.ahead.Perm (taken ++ last.ahead) := by
  induction h with
  | done tally => exact .refl _
  | take first rest ih => exact first.ahead_perm.trans (ih.cons _)

/-- A run counts the nodes that it takes. -/
theorem Runs.counted_eq (h : Runs marker tally taken last) :
    last.counted = taken.foldl (Histogram.recordNode marker) tally.counted := by
  induction h with
  | done tally => rfl
  | take first rest ih =>
      rw [ih]
      cases first
      rfl

end Runs
end Tally

namespace Histogram

variable (marker : String)

/-- The nodes taken so far and what has been counted, after one more node. -/
def takeLocated (found : List Json.Located × Histogram) (node : Json.Located) :
    List Json.Located × Histogram :=
  (found.1 ++ [node], found.2.recordNode marker node)

/-- The loop of `Histogram.countPending` over nodes with their positions, which keeps
the nodes that it takes as well. -/
def countLocated (h : Histogram) (pending : List Json.Located) :
    List Json.Located × Histogram :=
  Json.Located.view.visit (takeLocated marker) ([], h) pending

/-- What is counted in nodes is what `Histogram.countPending` counts in their values. -/
theorem countLocated_eq (h : Histogram) (pending : List Json.Located) :
    (countLocated marker h pending).2 =
      countPending marker h (pending.map Json.Located.value) :=
  Json.View.visit_hom Json.Located.value Prod.snd Json.Located.map_value_children
    (fun _ _ => rfl) ([], h) pending

/-- The loop takes the first pending node every time, and this is a run up to its
end. -/
theorem runs_visit (found : List Json.Located × Histogram) (pending : List Json.Located) :
    ∃ taken counted,
      Json.Located.view.visit (takeLocated marker) found pending =
          (found.1 ++ taken, counted) ∧
        Tally.Runs marker ⟨pending, found.2⟩ taken ⟨[], counted⟩ := by
  fun_induction Json.View.visit Json.Located.view (takeLocated marker) found pending with
  | case1 found => exact ⟨[], found.2, by rw [List.append_nil], .done _⟩
  | case2 found node rest ih =>
      obtain ⟨taken, counted, hvisit, hruns⟩ := ih
      refine ⟨node :: taken, counted, ?_, .take (.visit [] rest node found.2) hruns⟩
      rw [hvisit, takeLocated, List.append_assoc, List.singleton_append]

/-- The logged loop is a run: it takes its nodes one after the other, to the end. -/
theorem runs_countLocated (h : Histogram) (pending : List Json.Located) :
    Tally.Runs marker ⟨pending, h⟩ (countLocated marker h pending).1
      ⟨[], (countLocated marker h pending).2⟩ := by
  obtain ⟨taken, counted, hvisit, hruns⟩ := runs_visit marker ([], h) pending
  rw [List.nil_append] at hvisit
  rwa [countLocated, hvisit]

/-- The order in which nodes are counted is of no consequence. -/
theorem recordNode_comm (h : Histogram) (first second : Json.Located) :
    (h.recordNode marker first).recordNode marker second =
      (h.recordNode marker second).recordNode marker first := by
  refine ext_get fun kind => ?_
  simp only [recordNode, recordValue, get_recordIfSome]
  omega

/-- Records commute, so the order in which nodes are taken does not matter. -/
theorem foldl_recordNode_perm {taken others : List Json.Located} (hperm : taken.Perm others)
    (h : Histogram) :
    taken.foldl (recordNode marker) h = others.foldl (recordNode marker) h :=
  hperm.foldl_eq' (fun first _ second _ counted => recordNode_comm marker counted first second) h

end Histogram

/-! ## Runs over a tree -/

section Tree

variable {marker : String} {h : Histogram} {tree : Json} {taken : List Json.Located}

namespace Tally

/-- Before the first visit all nodes of the tree are ahead. -/
theorem ahead_start : (start h tree).ahead = (Json.Located.root tree).nodes := by
  rw [ahead, start, List.flatMap_singleton]

/-- The nodes ahead are those that the pending values consist of. -/
theorem length_ahead (tally : Tally) :
    tally.ahead.length = Json.nodeCountItems (tally.pending.map Json.Located.value) :=
  Json.Located.length_flatMap_nodes fun node _ => node.length_nodes

/-- Every visit of a run leaves one node less. -/
theorem Runs.length_eq {tally : Tally} (hruns : Runs marker (.start h tree) taken tally) :
    taken.length + Json.nodeCountItems (tally.pending.map Json.Located.value) =
      tree.nodeCount := by
  have hlength := hruns.ahead_perm.length_eq
  rw [ahead_start, Json.Located.length_nodes, List.length_append, length_ahead] at hlength
  exact hlength.symm

/-- A run that leaves nothing pending has taken the nodes of the tree. -/
theorem Runs.perm_nodes {counted : Histogram}
    (hruns : Runs marker (.start h tree) taken ⟨[], counted⟩) :
    taken.Perm (Json.Located.root tree).nodes := by
  have hperm := hruns.ahead_perm
  rw [ahead_start, ahead, List.flatMap_nil, List.append_nil] at hperm
  exact hperm.symm

/-- Runs that leave nothing pending end with the same histogram. -/
theorem Runs.counted_unique {others : List Json.Located} {counted other : Histogram}
    (hruns : Runs marker (.start h tree) taken ⟨[], counted⟩)
    (hothers : Runs marker (.start h tree) others ⟨[], other⟩) : counted = other :=
  calc counted
    _ = taken.foldl (Histogram.recordNode marker) h := hruns.counted_eq
    _ = others.foldl (Histogram.recordNode marker) h :=
        Histogram.foldl_recordNode_perm marker (hruns.perm_nodes.trans hothers.perm_nodes.symm) h
    _ = other := hothers.counted_eq.symm

end Tally
end Tree

/-- The count of a tree ends after as many visits as the tree has nodes, and it visits each
position of the tree once.  So does every run that takes any pending node at each step:
it leaves one node less after every visit and can always be carried to its end, and then it
has taken as many visits, has visited each position once, and has the same histogram. -/
theorem Histogram.countTree_visits_once (marker : String) (h : Histogram) (tree : Json) :
    (∃ taken, countLocated marker h [.root tree] = (taken, h.countTree marker tree) ∧
        Tally.Runs marker (.start h tree) taken ⟨[], h.countTree marker tree⟩ ∧
          taken.length = tree.nodeCount ∧ tree.VisitsOnce taken) ∧
      ∀ taken tally, Tally.Runs marker (.start h tree) taken tally →
        taken.length + Json.nodeCountItems (tally.pending.map Json.Located.value) =
            tree.nodeCount ∧
          (tally.pending = [] → taken.length = tree.nodeCount ∧ tree.VisitsOnce taken ∧
            tally.counted = h.countTree marker tree) ∧
          ∃ more counted, Tally.Runs marker tally more ⟨[], counted⟩ := by
  have hcounted : (countLocated marker h [.root tree]).2 = h.countTree marker tree :=
    countLocated_eq marker h [.root tree]
  have hloop := runs_countLocated marker h [.root tree]
  rw [hcounted] at hloop
  refine ⟨⟨_, Prod.ext rfl hcounted, hloop, hloop.length_eq,
    Json.visitsOnce_of_perm hloop.perm_nodes⟩, ?runs⟩
  case runs =>
    rintro taken ⟨pending, counted⟩ hruns
    refine ⟨hruns.length_eq, ?complete, _, _, runs_countLocated marker counted pending⟩
    case complete =>
      rintro rfl
      exact ⟨hruns.length_eq, Json.visitsOnce_of_perm hruns.perm_nodes,
        hruns.counted_unique hloop⟩

/-- The last child of a node is visited before the others, and what is below it as well. -/
example :
    ((Histogram.countLocated "kind" .empty
        [.root (.object [("a", .array [.null]), ("b", .array [.null, .null])])]).1.map
      Json.Located.position) = [[], [1], [1, 1], [1, 0], [0], [0, 0]] := by
  decide +kernel

end SyntaxCensus
