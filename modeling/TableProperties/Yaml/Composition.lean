import TableProperties.Yaml.Lexer
import TableProperties.Yaml.Node

/-!
# From tokens to nodes

The nodes of a document are put together from its tokens. An anchor names a node as soon as the node
starts, so that an alias inside a collection can stand for that collection.

## Main definitions

* `Composition`: the tokens to come, the anchors seen so far and the nodes.
* `Graph.ofTokens`: the only document of a list of tokens.
-/

namespace TableProperties.Yaml

/-- The state in which nodes are put together. -/
structure Composition where
  /-- The tokens to come. -/
  tokens : List Token
  /-- The anchors seen so far, the last one first. -/
  anchors : List (List Char × NodeId) := []
  /-- The nodes so far. -/
  graph : Graph := {}

/-- A node or other part, with the state after it. -/
abbrev Composed (α : Type) := Except Fault (α × Composition)

/-- What the handles of tags stand for. -/
abbrev Handles := List (List Char × List Char)

/-- The handles that need no directive. -/
def defaultHandles : Handles := [(['!'], ['!']), (['!', '!'], coreTagStart)]

/-! ## Properties of nodes -/

/-- The anchor and the tag of a node. -/
structure Properties where
  anchor : Option (List Char) := none
  tag : Option (List Char) := none

namespace Composition

/-- The error at the next token. -/
def fail {α : Type} (c : Composition) : Composed α :=
  match c.tokens with
  | .fault fault :: _ => .error fault
  | _ => .error .malformed

/-- Drops the next token. -/
def skip (c : Composition) : Composition :=
  { c with tokens := c.tokens.tail }

/-- Whether the next token is one of some; the end of the tokens is none of them. -/
def nextIs (c : Composition) (expected : List Token) : Bool :=
  (c.tokens.head?.map expected.contains).getD false

/-- Adds a node, which an anchor may name. -/
def add (c : Composition) (anchor : Option (List Char)) (n : Node) : NodeId × Composition :=
  let (id, graph) := c.graph.add n
  let anchors := match anchor with
    | none => c.anchors
    | some anchor => (anchor, id) :: c.anchors
  (id, { c with anchors, graph })

/-- Replaces a node. -/
def set (c : Composition) (id : NodeId) (n : Node) : Composition :=
  { c with graph := c.graph.set id n }

/-- The tag that a handle and the text after it stand for. -/
def expand? (handles : Handles) : Option (List Char) → List Char → Option (List Char)
  | none, suffix => some suffix
  | some handle, suffix => (handles.lookup handle).map (· ++ suffix)

/-- The anchor and the tag in front of a node, in either order. An anchor must be new. Where the text
stops being YAML counts before that, and before an unknown handle too as long as the anchor or the
tag could still follow. -/
def properties (handles : Handles) (c : Composition) : Composed Properties :=
  let (anchor, tag, rest) :=
    match c.tokens with
    | .anchor name :: .tag handle suffix :: rest => (some name, some (handle, suffix), rest)
    | .tag handle suffix :: .anchor name :: rest => (some name, some (handle, suffix), rest)
    | .anchor name :: rest => (some name, none, rest)
    | .tag handle suffix :: rest => (none, some (handle, suffix), rest)
    | rest => (none, none, rest)
  let isNew := anchor.all fun a ↦ (c.anchors.lookup a).isNone
  let c := { c with tokens := rest }
  let expanded :=
    match tag with
    | none => some none
    | some (handle, suffix) => (expand? handles handle suffix).map some
  match rest, expanded with
  | .fault fault :: _, some _ => .error fault
  | .fault fault :: _, none => .error (if anchor.isSome then .malformed else fault)
  | _, none => .error .malformed
  | _, some tag => if isNew then .ok (⟨anchor, tag⟩, c) else .error .malformed

end Composition

/-- The type of a scalar: that of its tag, or the one that its text has if it is plain. The tag that
is a lone exclamation mark treats every scalar as plain. -/
def Properties.scalarTag (p : Properties) (plain : Bool) (text : List Char) : Tag :=
  match p.tag with
  | some ['!'] => .ofPlain text
  | some tag => .ofText tag
  | none => if plain then .ofPlain text else .str

/-- The type of a collection: that of its tag, or the usual one. -/
def Properties.collectionTag (p : Properties) (usual : Tag) : Tag :=
  match p.tag with
  | none | some ['!'] => usual
  | some tag => .ofText tag

/-- Whether a node has an anchor or a tag. -/
def Properties.isGiven (p : Properties) : Bool :=
  p.anchor.isSome || p.tag.isSome

/-! ## Putting nodes together -/

/-- Where a node stands. -/
structure Place where
  /-- Whether it may be a block collection. -/
  block : Bool := true
  /-- Whether it may be a block sequence that is not indented. -/
  indentless : Bool := false

namespace Composition

/-- Tokens that cannot start a node after the mark of an entry. -/
def afterEntry : List Token := [.blockEntry, .blockEnd]

/-- Tokens that cannot start a node after the mark of an entry that is not indented. -/
def afterIndentless : List Token := [.blockEntry, .key, .value, .blockEnd]

/-- Tokens that cannot start a node in a block mapping. -/
def afterKey : List Token := [.key, .value, .blockEnd]

mutual

/-- A node, or nothing if the next token cannot start one. -/
def nodeUnless (handles : Handles) (place : Place) (stops : List Token) :
    Nat → Composition → Composed NodeId
  | 0, c => c.fail
  | fuel + 1, c => if c.nextIs stops then .ok (c.add none .empty) else node handles place fuel c

/-- A node. The second but last argument bounds the number of calls. -/
def node (handles : Handles) (place : Place) : Nat → Composition → Composed NodeId
  | 0, c => c.fail
  | fuel + 1, c =>
    match c.tokens with
    | .alias name :: rest =>
      match c.anchors.lookup name with
      | some id => .ok (id, { c with tokens := rest })
      | none => .error .malformed
    | _ =>
      match c.properties handles with
      | .error fault => .error fault
      | .ok (p, c) =>
        let sequence (close : Composition → Composed (List NodeId)) : Composed NodeId :=
          let tag := p.collectionTag .seq
          let (id, c) := c.add p.anchor (.sequence tag [])
          (close c).map fun (items, c) ↦ (id, c.set id (.sequence tag items))
        let mapping (close : Composition → Composed (List (NodeId × NodeId))) : Composed NodeId :=
          let tag := p.collectionTag .map
          let (id, c) := c.add p.anchor (.mapping tag [])
          (close c).map fun (entries, c) ↦ (id, c.set id (.mapping tag entries))
        let scalar (plain : Bool) (text : List Char) (c : Composition) : Composed NodeId :=
          .ok (c.add p.anchor (.scalar (p.scalarTag plain text) text))
        match c.tokens with
        | .blockEntry :: _ =>
          if place.indentless then sequence (indentlessItems handles fuel)
          else if p.isGiven then scalar true [] c
          else c.fail
        | .scalar plain text :: _ => scalar plain text c.skip
        | .flowSequenceStart :: _ =>
          sequence fun c ↦ flowItems handles true fuel c.skip
        | .flowMappingStart :: _ =>
          mapping fun c ↦ flowEntries handles true fuel c.skip
        | .blockSequenceStart :: _ =>
          if place.block then sequence fun c ↦ blockItems handles fuel c.skip
          else if p.isGiven then scalar true [] c
          else c.fail
        | .blockMappingStart :: _ =>
          if place.block then mapping fun c ↦ blockEntries handles fuel c.skip
          else if p.isGiven then scalar true [] c
          else c.fail
        | _ => if p.isGiven then scalar true [] c else c.fail

/-- The items of a block sequence up to its end. -/
def blockItems (handles : Handles) : Nat → Composition → Composed (List NodeId)
  | 0, c => c.fail
  | fuel + 1, c =>
    match c.tokens with
    | .blockEntry :: _ =>
      match nodeUnless handles {} afterEntry fuel c.skip with
      | .error fault => .error fault
      | .ok (n, c) => (blockItems handles fuel c).map fun (ns, c) ↦ (n :: ns, c)
    | .blockEnd :: _ => .ok ([], c.skip)
    | _ => c.fail

/-- The items of a block sequence that is not indented, as far as they go. -/
def indentlessItems (handles : Handles) : Nat → Composition → Composed (List NodeId)
  | 0, c => c.fail
  | fuel + 1, c =>
    match c.tokens with
    | .blockEntry :: _ =>
      match nodeUnless handles {} afterIndentless fuel c.skip with
      | .error fault => .error fault
      | .ok (n, c) => (indentlessItems handles fuel c).map fun (ns, c) ↦ (n :: ns, c)
    | _ => .ok ([], c)

/-- The entries of a block mapping up to its end. -/
def blockEntries (handles : Handles) : Nat → Composition → Composed (List (NodeId × NodeId))
  | 0, c => c.fail
  | fuel + 1, c =>
    match c.tokens with
    | .key :: _ =>
      match nodeUnless handles { indentless := true } afterKey fuel c.skip with
      | .error fault => .error fault
      | .ok (k, c) =>
        match blockValue handles fuel c with
        | .error fault => .error fault
        | .ok (v, c) => (blockEntries handles fuel c).map fun (es, c) ↦ ((k, v) :: es, c)
    | .blockEnd :: _ => .ok ([], c.skip)
    | _ => c.fail

/-- The value after a key of a block mapping, which may be missing. -/
def blockValue (handles : Handles) : Nat → Composition → Composed NodeId
  | 0, c => c.fail
  | fuel + 1, c =>
    match c.tokens with
    | .value :: _ => nodeUnless handles { indentless := true } afterKey fuel c.skip
    | _ => .ok (c.add none .empty)

/-- The items of a flow sequence up to its end. All but the first follow a separator. An item that
has a key is a mapping with one entry. -/
def flowItems (handles : Handles) (isFirst : Bool) : Nat → Composition → Composed (List NodeId)
  | 0, c => c.fail
  | fuel + 1, c =>
    let separated :=
      if isFirst then some c else if c.nextIs [.flowEntry] then some c.skip else none
    if c.nextIs [.flowSequenceEnd] then .ok ([], c.skip)
    else
      match separated with
      | none => c.fail
      | some c =>
        match c.tokens with
        | .flowSequenceEnd :: _ => .ok ([], c.skip)
        | .key :: _ =>
          match nodeUnless handles { block := false } [.value, .flowEntry, .flowSequenceEnd] fuel
              c.skip with
          | .error fault => .error fault
          | .ok (k, c) =>
            match flowValue handles .flowSequenceEnd fuel c with
            | .error fault => .error fault
            | .ok (v, c) =>
              let (id, c) := c.add none (.mapping .map [(k, v)])
              (flowItems handles false fuel c).map fun (ns, c) ↦ (id :: ns, c)
        | _ =>
          match node handles { block := false } fuel c with
          | .error fault => .error fault
          | .ok (n, c) => (flowItems handles false fuel c).map fun (ns, c) ↦ (n :: ns, c)

/-- The entries of a flow mapping up to its end. All but the first follow a separator. An entry
without a key mark is a key without a value. -/
def flowEntries (handles : Handles) (isFirst : Bool) :
    Nat → Composition → Composed (List (NodeId × NodeId))
  | 0, c => c.fail
  | fuel + 1, c =>
    let separated :=
      if isFirst then some c else if c.nextIs [.flowEntry] then some c.skip else none
    if c.nextIs [.flowMappingEnd] then .ok ([], c.skip)
    else
      match separated with
      | none => c.fail
      | some c =>
        match c.tokens with
        | .flowMappingEnd :: _ => .ok ([], c.skip)
        | .key :: _ =>
          match nodeUnless handles { block := false } [.value, .flowEntry, .flowMappingEnd] fuel
              c.skip with
          | .error fault => .error fault
          | .ok (k, c) =>
            match flowValue handles .flowMappingEnd fuel c with
            | .error fault => .error fault
            | .ok (v, c) =>
              (flowEntries handles false fuel c).map fun (es, c) ↦ ((k, v) :: es, c)
        | _ =>
          match node handles { block := false } fuel c with
          | .error fault => .error fault
          | .ok (k, c) =>
            let (v, c) := c.add none .empty
            (flowEntries handles false fuel c).map fun (es, c) ↦ ((k, v) :: es, c)

/-- The value after a key of a flow collection, which may be missing. -/
def flowValue (handles : Handles) (stop : Token) : Nat → Composition → Composed NodeId
  | 0, c => c.fail
  | fuel + 1, c =>
    match c.tokens with
    | .value :: _ => nodeUnless handles { block := false } [.flowEntry, stop] fuel c.skip
    | _ => .ok (c.add none .empty)

end

/-! ## Documents -/

/-- The directives in front of a document: at most one version, which must be of the first edition,
and new handles. -/
def directives (versioned : Bool) (handles : Handles) : List Token → Option (Handles × List Token)
  | .directive (.version major) :: rest =>
    if versioned || major != 1 then none else directives true handles rest
  | .directive (.tag handle start) :: rest =>
    if (handles.lookup handle).isSome then none
    else directives versioned ((handle, start) :: handles) rest
  | .directive .other :: rest => directives versioned handles rest
  | tokens => some (handles, tokens)

/-- Whether the tokens start with one that ends an empty document. -/
def atDocumentEnd : List Token → Bool
  | [] | .directive _ :: _ | .documentStart :: _ | .documentEnd :: _ => true
  | _ => false

/-- A document, which has directives and a marker in front, or neither. -/
def document (c : Composition) : Composed NodeId :=
  let fuel := 4 * c.tokens.length + 4
  match c.tokens with
  | .directive _ :: _ | .documentStart :: _ =>
    match directives false [] c.tokens with
    | some (handles, .documentStart :: rest) =>
      let c := { c with tokens := rest }
      if atDocumentEnd rest then .ok (c.add none .empty)
      else node (handles ++ defaultHandles) {} fuel c
    | some (_, rest) => fail { c with tokens := rest }
    | none => .error .malformed
  | _ => node defaultHandles {} fuel c

/-- What stands behind the only document: nothing, apart from marks of its end. -/
def checkEnd (c : Composition) : Except Fault Unit :=
  match c.tokens.dropWhile (· == .documentEnd) with
  | [] => .ok ()
  | rest =>
    match directives false [] rest with
    | some (_, .fault fault :: _) => .error fault
    | _ => .error .malformed

end Composition

/-- The only document of a list of tokens, with its first node; nothing if there is none. -/
def Graph.ofTokens (tokens : List Token) : Except Fault (Option (NodeId × Graph)) :=
  if tokens.isEmpty then .ok none
  else
    match Composition.document { tokens } with
    | .error fault => .error fault
    | .ok (id, c) => c.checkEnd.map fun _ ↦ some (id, c.graph)

end TableProperties.Yaml
