import TableProperties.Yaml.Node

/-!
# Merging mappings

Under the key that is written as two less-than signs a mapping names other mappings, one or a list,
whose entries come before its own. Of a list the last mapping comes first, so that the first one
prevails. The named mappings are merged themselves before that, and they stay so. A key that is
written as an equals sign is a text from then on, wherever else its node stands.

## Main definitions

* `Graph.merge?`: carries out the merges of one mapping; nothing if a merge names something else.
-/

namespace TableProperties.Yaml

namespace Graph

/-- Whether the node at a place has a type. -/
def hasTag (g : Graph) (tag : Tag) (id : NodeId) : Bool :=
  (g.get? id).any (·.tag == tag)

/-- Replaces the entries of a mapping. -/
def setEntries (g : Graph) (id : NodeId) (entries : List (NodeId × NodeId)) : Graph :=
  match g.get? id with
  | some (.mapping tag _) => g.set id (.mapping tag entries)
  | _ => g

/-- Takes the first merge out of a mapping: the place of what it names. -/
def takeMerge? (g : Graph) (id : NodeId) : Option (NodeId × Graph) :=
  let isMerge (e : NodeId × NodeId) : Bool := g.hasTag .merge e.1
  ((g.entries id).find? isMerge).map fun e ↦ (e.2, g.setEntries id ((g.entries id).eraseP isMerge))

/-- Makes a key that is written as an equals sign a text. -/
def settleKey (g : Graph) (key : NodeId) : Graph :=
  match g.get? key with
  | some n => if n.tag = .value then g.set key (n.withTag .str) else g
  | none => g

/-- Puts merged entries in front of those of a mapping, whose keys become texts where they can. -/
def settle (g : Graph) (id : NodeId) (merged : List (NodeId × NodeId)) : Graph :=
  let g := (g.entries id).foldl (fun g e ↦ g.settleKey e.1) g
  g.setEntries id (merged ++ g.entries id)

/-- Whether the node at a place is a mapping. -/
def isMapping (g : Graph) (id : NodeId) : Bool :=
  match g.get? id with
  | some (.mapping ..) => true
  | _ => false

/-- The items of a sequence. -/
def items? (g : Graph) (id : NodeId) : Option (List NodeId) :=
  match g.get? id with
  | some (.sequence _ items) => some items
  | _ => none

/-- Carries out the merges of a mapping, given the entries that others have contributed before.
Each call takes a merge out of the graph, so their number bounds the depth of calls. -/
def mergeWith? : Nat → Graph → NodeId → List (NodeId × NodeId) → Option Graph
  | 0, _, _, _ => none
  | fuel + 1, g, id, merged =>
    match g.takeMerge? id with
    | none => some (g.settle id merged)
    | some (named, g) =>
      let contribute (state : Graph × List (NodeId × NodeId)) (source : NodeId) :
          Option (Graph × List (NodeId × NodeId)) :=
        if state.1.isMapping source then
          (mergeWith? fuel state.1 source []).map fun g ↦ (g, g.entries source ++ state.2)
        else none
      match (g.items? named).getD [named] |>.foldlM contribute (g, []) with
      | none => none
      | some (g, contributed) => mergeWith? fuel g id (merged ++ contributed)

/-- The number of merges in all mappings. -/
def countMerges (g : Graph) : Nat :=
  g.nodes.foldl (fun count n ↦
    match n with
    | .mapping _ entries => count + entries.countP fun e ↦ g.hasTag .merge e.1
    | _ => count) 0

/-- Carries out the merges of a mapping. -/
def merge? (g : Graph) (id : NodeId) : Option Graph :=
  g.mergeWith? (g.countMerges + 1) id []

end Graph

end TableProperties.Yaml
