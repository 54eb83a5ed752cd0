import TableProperties.Document.Basic
import TableProperties.Yaml.Merge
import TableProperties.Yaml.Value

/-!
# What nodes stand for

Each node of a document stands for a scalar or a collection. A node is looked at once: when it is
first met as a key, a value or an item. A scalar is read there and then, while a collection waits
for its turn behind all collections met before it; only then are its merges carried out and its
parts looked at. The first fault on this way counts. The keys of mappings have to be scalars.

## Main definitions

* `Content`: what a node stands for; the parts of a collection are places of nodes.
* `Survey`: the nodes looked at so far.
* `Graph.contents`: the contents of a whole document.
-/

namespace TableProperties.Yaml

/-- What a node stands for. -/
inductive Content where
  | scalar (s : Scalar)
  | list (items : List NodeId)
  | pairs (items : List (NodeId × NodeId))
  | set (items : List Scalar)
  | map (entries : List (Scalar × NodeId))
  deriving DecidableEq, Repr

/-- The contents of nodes, as far as they are known. -/
abbrev Contents := Array (Option Content)

/-- The nodes looked at so far. -/
structure Survey where
  graph : Graph
  contents : Contents
  /-- The collections that wait for their turn. -/
  waiting : List NodeId := []

/-! ## Scalars -/

/-- The text of a node: that of a scalar, or of the value under the equals sign in a mapping. The
first argument bounds the depth of mappings. -/
def Graph.text? (g : Graph) : Nat → NodeId → Except Fault (List Char)
  | 0, _ => .error .endless
  | fuel + 1, id =>
    match g.get? id with
    | some (.scalar _ text) => .ok text
    | some (.mapping _ entries) =>
      match entries.find? fun e ↦ g.hasTag .value e.1 with
      | some (_, value) => g.text? fuel value
      | none => .error .malformed
    | _ => .error .malformed

/-- The value of a node whose type is that of a scalar. -/
def Graph.scalar (g : Graph) (id : NodeId) (n : Node) : Except Fault Scalar :=
  match n.tag with
  | .null | .bool | .int | .float | .binary | .timestamp | .str =>
    match g.text? (g.size + 1) id, n with
    | .error fault, _ => .error fault
    | .ok _, .mapping .timestamp _ => .error .timestampMapping
    | .ok s, n => n.tag.scalar s
  | _ => .error .malformed

namespace Survey

/-- What is known of a node. -/
def content? (x : Survey) (id : NodeId) : Option Content :=
  (x.contents[id]?).join

/-- Records what a node stands for. -/
def record (x : Survey) (id : NodeId) (content : Content) : Survey :=
  { x with contents := x.contents.setIfInBounds id (some content) }

/-- The collection of a type before its parts are known. -/
def emptyOf : Tag → Option Content
  | .seq => some (.list [])
  | .omap | .pairs => some (.pairs [])
  | .set => some (.set [])
  | .map => some (.map [])
  | _ => none

/-- Looks at a node. -/
def visit (x : Survey) (id : NodeId) : Except Fault Survey :=
  match x.content? id, x.graph.get? id with
  | some _, _ => .ok x
  | none, none => .error .malformed
  | none, some n =>
    match emptyOf n.tag with
    | some content => .ok { x.record id content with waiting := x.waiting ++ [id] }
    | none => (x.graph.scalar id n).map fun s ↦ x.record id (.scalar s)

/-! ## Collections -/

/-- Looks at a key, which must be a scalar. -/
def visitKey (x : Survey) (id : NodeId) : Except Fault (Scalar × Survey) :=
  match x.visit id with
  | .error fault => .error fault
  | .ok x =>
    match x.content? id with
    | some (.scalar s) => .ok (s, x)
    | _ => .error .malformed

/-- Looks at the entries of a mapping. -/
def visitEntries (x : Survey) :
    List (NodeId × NodeId) → Except Fault (List (Scalar × NodeId) × Survey)
  | [] => .ok ([], x)
  | (k, v) :: rest =>
    match x.visitKey k with
    | .error fault => .error fault
    | .ok (key, x) =>
      match x.visit v with
      | .error fault => .error fault
      | .ok x => (x.visitEntries rest).map fun (entries, x) ↦ ((key, v) :: entries, x)

/-- Looks at the items of a list of mappings with one entry each. -/
def visitPairs (x : Survey) : List NodeId → Except Fault (List (NodeId × NodeId) × Survey)
  | [] => .ok ([], x)
  | item :: rest =>
    match x.graph.entries item with
    | [(k, v)] =>
      match x.visit k with
      | .error fault => .error fault
      | .ok x =>
        match x.visit v with
        | .error fault => .error fault
        | .ok x => (x.visitPairs rest).map fun (pairs, x) ↦ ((k, v) :: pairs, x)
    | _ => .error .malformed

/-- The entries of a mapping after its merges: of repeated keys the last value wins. -/
def visitMapping (x : Survey) (id : NodeId) : Except Fault (List (Scalar × NodeId) × Survey) :=
  match x.graph.merge? id with
  | none => .error .malformed
  | some graph =>
    ({ x with graph }.visitEntries (graph.entries id)).map fun (entries, x) ↦
      (Association.ofPairs Scalar.SameKey entries, x)

/-- Looks at the parts of a collection. -/
def fill (x : Survey) (id : NodeId) : Except Fault Survey :=
  match x.graph.get? id with
  | some (.sequence .seq items) =>
    (items.foldlM visit x).map fun x ↦ x.record id (.list items)
  | some (.sequence .omap items) | some (.sequence .pairs items) =>
    (x.visitPairs items).map fun (pairs, x) ↦ x.record id (.pairs pairs)
  | some (.mapping .map _) =>
    (x.visitMapping id).map fun (entries, x) ↦ x.record id (.map entries)
  | some (.mapping .set _) =>
    (x.visitMapping id).map fun (entries, x) ↦ x.record id (.set (entries.map Prod.fst))
  | _ => .error .malformed

/-- Looks at all collections that wait. Each node waits at most once, so the number of nodes bounds
the number of steps. -/
def fillAll : Nat → Survey → Except Fault Survey
  | 0, x => .ok x
  | fuel + 1, x =>
    match x.waiting with
    | [] => .ok x
    | id :: rest =>
      match { x with waiting := rest }.fill id with
      | .error fault => .error fault
      | .ok x => fillAll fuel x

end Survey

/-- The contents of all nodes that can be reached from a node. -/
def Graph.contents (g : Graph) (id : NodeId) : Except Fault Contents :=
  let start : Survey := { graph := g, contents := Array.replicate g.size none }
  match start.visit id with
  | .error fault => .error fault
  | .ok x => (Survey.fillAll g.size x).map Survey.contents

end TableProperties.Yaml
