import TableProperties.Proofs.Yaml.Entries
import TableProperties.Yaml.Composition

/-!
# Nodes of entries

The tokens of a mapping of texts become a mapping node followed by one node for each key and each
value. The type of each of these is that of a text, since a text is written plain only if it reads
as one.

## Main statements

* `ofTokens_openTokens`: the graph of a mapping of texts.
* `ofTokens_of_fault`: a text that stops behind some entries has no graph.
-/

namespace TableProperties.Yaml

variable {s key value : List Char} {entries : List (List Char × List Char)} {rest : List Token}
  {anchors : List (List Char × NodeId)} {g : Graph} {handles : Handles} {fuel : Nat}

/-! ## The graph of a mapping of texts -/

/-- The nodes of the keys and values of some entries. -/
def leafNodes (entries : List (List Char × List Char)) : List Node :=
  entries.flatMap fun e ↦ [.scalar .str e.1, .scalar .str e.2]

/-- The places of the keys and values of some entries, from a first one on. -/
def leafIds (first : NodeId) : List (List Char × List Char) → List (NodeId × NodeId)
  | [] => []
  | _ :: entries => (first, first + 1) :: leafIds (first + 2) entries

/-- The graph of a mapping of texts. -/
def mappingGraph (entries : List (List Char × List Char)) : Graph :=
  ⟨(.mapping .map (leafIds 1 entries) :: leafNodes entries).toArray⟩

/-! ## Putting nodes together -/

theorem scalarTag_scalarToken (p : Properties) (hp : p.tag = none) (s : List Char) :
    p.scalarTag (Style.ofText s == .plain) s = .str := by
  rw [Properties.scalarTag, hp]
  by_cases hstyle : Style.ofText s = .plain
  · have hplain := isPlainText_of_ofText hstyle
    simp only [isPlainText, Bool.and_eq_true, beq_iff_eq] at hplain
    rw [hstyle]
    exact hplain.2
  · rw [beq_eq_false_iff_ne.mpr hstyle]
    rfl

namespace Composition

/-- A scalar without a tag is the node of a text. -/
theorem node_scalar (place : Place) (s : List Char) :
    node handles place (fuel + 1) ⟨scalarToken s :: rest, anchors, g⟩
      = .ok (g.size, ⟨rest, anchors, ⟨g.nodes.push (.scalar .str s)⟩⟩) := by
  have htag := scalarTag_scalarToken ⟨none, none⟩ rfl s
  rw [node]
  simp only [scalarToken]
  simp [properties, skip, add, Graph.add, htag, Graph.size]

theorem nodeUnless_scalar (place : Place) (s : List Char) (hfuel : 2 ≤ fuel) :
    nodeUnless handles place afterKey fuel ⟨scalarToken s :: rest, anchors, g⟩
      = .ok (g.size, ⟨rest, anchors, ⟨g.nodes.push (.scalar .str s)⟩⟩) := by
  obtain ⟨fuel, rfl⟩ := Nat.exists_eq_add_of_le' hfuel
  have hstart : nextIs ⟨scalarToken s :: rest, anchors, g⟩ afterKey = false := by
    simp [nextIs, afterKey, scalarToken]
  rw [nodeUnless, hstart, if_neg Bool.false_ne_true]
  exact node_scalar place s

/-- An entry of texts at the front of a block mapping. -/
theorem blockEntries_entry (e : List Char × List Char) (hfuel : 3 ≤ fuel) :
    blockEntries handles (fuel + 1) ⟨entryTokens e ++ rest, anchors, g⟩
      = (blockEntries handles fuel
          ⟨rest, anchors, ⟨(g.nodes.push (.scalar .str e.1)).push (.scalar .str e.2)⟩⟩).map
          fun r ↦ ((g.size, g.size + 1) :: r.1, r.2) := by
  have hsize : Graph.size ⟨g.nodes.push (.scalar .str e.1)⟩ = g.size + 1 := Array.size_push ..
  obtain ⟨fuel, rfl⟩ := Nat.exists_eq_add_of_le' hfuel
  rw [entryTokens, List.cons_append, List.cons_append, List.cons_append, List.cons_append,
    List.nil_append, blockEntries]
  simp only [skip, List.tail_cons]
  rw [nodeUnless_scalar _ _ (by omega)]
  simp only
  rw [blockValue]
  simp only [skip, List.tail_cons]
  rw [nodeUnless_scalar _ _ (by omega)]
  simp only [hsize]

/-- Entries of texts at the front of a block mapping. -/
theorem blockEntries_append (entries : List (List Char × List Char)) (hfuel : 3 ≤ fuel) :
    blockEntries handles (fuel + entries.length) ⟨entries.flatMap entryTokens ++ rest, anchors, g⟩
      = (blockEntries handles fuel ⟨rest, anchors, ⟨g.nodes ++ (leafNodes entries).toArray⟩⟩).map
          fun r ↦ (leafIds g.size entries ++ r.1, r.2) := by
  induction entries generalizing g with
  | nil =>
    cases hrest : blockEntries handles fuel ⟨rest, anchors, g⟩ with
    | error fault => simp [leafNodes, hrest, Except.map]
    | ok r => simp [leafNodes, leafIds, hrest, Except.map]
  | cons e entries ih =>
    have hsize : Graph.size ⟨(g.nodes.push (.scalar .str e.1)).push (.scalar .str e.2)⟩
        = g.size + 2 := by
      simp [Graph.size]
    have hnodes : (g.nodes.push (.scalar .str e.1)).push (.scalar .str e.2)
        ++ (leafNodes entries).toArray = g.nodes ++ (leafNodes (e :: entries)).toArray := by
      simp [leafNodes]
    rw [List.flatMap_cons, List.append_assoc, List.length_cons, ← Nat.add_assoc,
      blockEntries_entry e (by omega), ih, hsize, hnodes]
    cases blockEntries handles fuel
        ⟨rest, anchors, ⟨g.nodes ++ (leafNodes (e :: entries)).toArray⟩⟩ with
    | error fault => rfl
    | ok r => rfl

theorem node_mapping (tokens : List Token) :
    node handles {} (fuel + 1) { tokens := .blockMappingStart :: tokens }
      = (blockEntries handles fuel ⟨tokens, [], ⟨#[.mapping .map []]⟩⟩).map
          fun r ↦ (0, r.2.set 0 (.mapping .map r.1)) := by
  rw [node]
  rfl

/-- A document that starts with the entries of a mapping. -/
theorem document_openTokens (hne : entries ≠ []) (last : List Token) : ∃ fuel,
    document { tokens := openTokens entries ++ last }
      = (blockEntries defaultHandles (fuel + 1)
          ⟨last, [], ⟨(.mapping .map [] :: leafNodes entries).toArray⟩⟩).map
          fun r ↦ (0, r.2.set 0 (.mapping .map (leafIds 1 entries ++ r.1))) := by
  have hopen : openTokens entries = .blockMappingStart :: entries.flatMap entryTokens := by
    rw [openTokens, if_neg (by simpa using hne)]
  have hlength : (entries.flatMap entryTokens).length = 4 * entries.length := by
    rw [List.length_flatMap]
    simp [entryTokens, Nat.mul_comm]
  rw [hopen, List.cons_append]
  obtain ⟨fuel, hfuel⟩ : ∃ fuel, 4 * (entries.flatMap entryTokens ++ last).length + 4 + 3
      = fuel + 3 + entries.length := by
    refine ⟨4 * (entries.flatMap entryTokens ++ last).length + 4 - entries.length, ?_⟩
    rw [List.length_append, hlength]
    omega
  refine ⟨fuel + 2, ?_⟩
  have hgraph : (#[Node.mapping .map []] : Array Node) ++ (leafNodes entries).toArray
      = (.mapping .map [] :: leafNodes entries).toArray := by simp
  rw [document]
  simp only [List.length_cons, Nat.mul_add, Nat.mul_one]
  rw [node_mapping, hfuel, blockEntries_append entries (by omega), hgraph]
  cases blockEntries defaultHandles (fuel + 3)
      ⟨last, [], ⟨(.mapping .map [] :: leafNodes entries).toArray⟩⟩ with
  | error fault => rfl
  | ok r => rfl

end Composition

/-- The graph of a mapping of texts. -/
theorem ofTokens_openTokens (hne : entries ≠ []) :
    Graph.ofTokens (openTokens entries ++ [.blockEnd]) = .ok (some (0, mappingGraph entries)) := by
  obtain ⟨fuel, hdocument⟩ := Composition.document_openTokens hne [.blockEnd]
  have hset : Graph.set ⟨(.mapping .map [] :: leafNodes entries).toArray⟩ 0
      (.mapping .map (leafIds 1 entries ++ [])) = mappingGraph entries := by
    simp [Graph.set, mappingGraph]
  have hend : Composition.blockEntries defaultHandles (fuel + 1)
      ⟨[.blockEnd], [], ⟨(.mapping .map [] :: leafNodes entries).toArray⟩⟩
      = .ok ([], ⟨[], [], ⟨(.mapping .map [] :: leafNodes entries).toArray⟩⟩) := rfl
  rw [Graph.ofTokens, if_neg (by simp), hdocument, hend]
  simp only [Except.map, Composition.set, hset]
  rfl

/-- A text that stops behind the scalar of a key has no graph. -/
theorem ofTokens_of_fault (entries : List (List Char × List Char)) (s : List Char) :
    Graph.ofTokens (openTokens entries ++ [scalarToken s, .fault .malformed])
      = .error .malformed := by
  by_cases hne : entries = []
  · subst hne
    rw [Graph.ofTokens, if_neg (by simp)]
    have hdocument : Composition.document { tokens := [scalarToken s, .fault .malformed] }
        = .ok (0, ⟨[.fault .malformed], [], ⟨#[.scalar .str s]⟩⟩) := by
      rw [Composition.document]
      exact Composition.node_scalar _ s
    have hopen : openTokens [] ++ [scalarToken s, .fault .malformed]
        = [scalarToken s, .fault .malformed] := rfl
    rw [hopen, hdocument]
    rfl
  · obtain ⟨fuel, hdocument⟩ :=
      Composition.document_openTokens hne [scalarToken s, .fault .malformed]
    rw [Graph.ofTokens, if_neg (by simp), hdocument]
    rfl

end TableProperties.Yaml
