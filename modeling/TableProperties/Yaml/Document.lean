import TableProperties.Yaml.Content

/-!
# From contents to documents

The contents of nodes refer to each other and may do so in circles. A document is a tree, so a
collection that is met inside itself is cut off there. What counts as inside follows the use of the
document: mappings inside mappings, from the whole document on, hold the properties, and any other
collection among them is a value that starts anew.

## Main definitions

* `valueAt`: a value, with everything in it.
* `documentAt`: the mappings from the whole document on.
-/

namespace TableProperties.Yaml

namespace Contents

/-- What stands at a place. -/
def at? (cs : Contents) (id : NodeId) : Option Content :=
  (cs[id]?).join

/-- A value. The collections around it are cut off in it. The first argument bounds the depth of
collections. -/
def valueAt (cs : Contents) : Nat → List NodeId → NodeId → Document
  | 0, _, _ => .scalar .null
  | fuel + 1, around, id =>
    let inside := cs.valueAt fuel (id :: around)
    match cs.at? id with
    | none => .scalar .null
    | some (.scalar s) => .scalar s
    | some (.set items) => .set items
    | some (.list items) => if around.contains id then .loop false else .list (items.map inside)
    | some (.pairs items) =>
      if around.contains id then .loop false
      else .pairs (items.map fun (k, v) ↦ (inside k, inside v))
    | some (.map entries) =>
      if around.contains id then .loop true
      else .map (entries.map fun (k, v) ↦ (k, inside v))

/-- A mapping with the mappings and values in it. -/
def documentAt (cs : Contents) : Nat → List NodeId → NodeId → Document
  | 0, _, _ => .scalar .null
  | fuel + 1, around, id =>
    match cs.at? id with
    | some (.map entries) =>
      if around.contains id then .loop true
      else .map (entries.map fun (k, v) ↦ (k, cs.documentAt fuel (id :: around) v))
    | _ => cs.valueAt (cs.size + 1) [] id

end Contents

/-- The document that a node stands for. A branch never holds more collections than there are
nodes. -/
def Graph.document (g : Graph) (id : NodeId) : Except Fault Document :=
  (g.contents id).map fun cs ↦ cs.documentAt (cs.size + 1) [] id

end TableProperties.Yaml
