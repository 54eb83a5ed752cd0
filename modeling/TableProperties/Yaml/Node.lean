import TableProperties.Yaml.Tag

/-!
# Nodes

The nodes of a YAML document with their types. An alias stands for the very node that it names, so
the nodes form a graph, in which a collection may even contain itself. A node refers to its parts by
their places in the graph.

## Main definitions

* `Node`.
* `Graph`: the nodes of a document, with `Graph.add`, `Graph.get?` and `Graph.set`.
-/

namespace TableProperties.Yaml

/-- The place of a node in its graph. -/
abbrev NodeId := Nat

/-- A part of a document. -/
inductive Node where
  | scalar (tag : Tag) (text : List Char)
  | sequence (tag : Tag) (items : List NodeId)
  | mapping (tag : Tag) (entries : List (NodeId × NodeId))
  deriving DecidableEq, Repr

namespace Node

/-- The node of nothing. -/
def empty : Node := scalar .null []

/-- The type of a node. -/
def tag : Node → Tag
  | scalar tag _ | sequence tag _ | mapping tag _ => tag

/-- A node with another type. -/
def withTag (tag : Tag) : Node → Node
  | scalar _ text => scalar tag text
  | sequence _ items => sequence tag items
  | mapping _ entries => mapping tag entries

@[simp] theorem tag_withTag (tag : Tag) (n : Node) : (n.withTag tag).tag = tag := by
  cases n <;> rfl

end Node

/-- The nodes of a document. -/
structure Graph where
  nodes : Array Node := #[]

namespace Graph

/-- The node at a place. -/
def get? (g : Graph) (id : NodeId) : Option Node :=
  g.nodes[id]?

/-- Adds a node at a new place. -/
def add (g : Graph) (n : Node) : NodeId × Graph :=
  (g.nodes.size, ⟨g.nodes.push n⟩)

/-- Replaces the node at a place. -/
def set (g : Graph) (id : NodeId) (n : Node) : Graph :=
  ⟨g.nodes.setIfInBounds id n⟩

/-- The number of nodes. -/
def size (g : Graph) : Nat :=
  g.nodes.size

/-- The entries of a mapping; any other node has none. -/
def entries (g : Graph) (id : NodeId) : List (NodeId × NodeId) :=
  match g.get? id with
  | some (.mapping _ entries) => entries
  | _ => []

theorem get?_add_self (g : Graph) (n : Node) : (g.add n).2.get? (g.add n).1 = some n := by
  simp [get?, add]

theorem get?_add_of_lt (g : Graph) (n : Node) {id : NodeId} (h : id < g.size) :
    (g.add n).2.get? id = g.get? id := by
  simp only [get?, add, size] at *
  rw [Array.getElem?_push]
  simp [Nat.ne_of_lt h]

theorem get?_set_self (g : Graph) (n : Node) {id : NodeId} (h : id < g.size) :
    (g.set id n).get? id = some n := by
  simp only [get?, set, size] at *
  simp [h]

theorem get?_set_of_ne (g : Graph) (n : Node) {id other : NodeId} (h : id ≠ other) :
    (g.set id n).get? other = g.get? other := by
  simp [get?, set, h]

@[simp] theorem size_set (g : Graph) (id : NodeId) (n : Node) : (g.set id n).size = g.size := by
  simp [size, set]

end Graph

end TableProperties.Yaml
