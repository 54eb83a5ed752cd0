import TableProperties.Proofs.Document.Flatten
import TableProperties.Proofs.Yaml.Composition
import TableProperties.Yaml.Document

/-!
# The document of a mapping of texts

A mapping of texts has nothing to merge, and each of its nodes is met once: the keys and values in
their order, after the mapping itself. So its document has its entries, as long as no key is
repeated.

## Main statements

* `merge?_mappingGraph`: merging leaves such a graph as it is.
* `document_mappingGraph`.
-/

namespace TableProperties.Yaml

variable {s : List Char} {entries : List (List Char × List Char)} {g : Graph}
  {known unknown : List (Option Content)} {waiting : List NodeId} {first : NodeId}

/-! ## The nodes of entries -/

/-- Whether the nodes from a place on are those of the keys and values of some entries. -/
def Graph.HasLeaves (g : Graph) (first : NodeId) : List (List Char × List Char) → Prop
  | [] => True
  | e :: entries => g.get? first = some (.scalar .str e.1) ∧
      g.get? (first + 1) = some (.scalar .str e.2) ∧ g.HasLeaves (first + 2) entries

theorem hasLeaves_append (nodes : List Node) (entries : List (List Char × List Char)) :
    Graph.HasLeaves ⟨(nodes ++ leafNodes entries).toArray⟩ nodes.length entries := by
  induction entries generalizing nodes with
  | nil => trivial
  | cons e entries ih =>
    refine ⟨?_, ?_, ?_⟩
    · simp [Graph.get?, leafNodes]
    · simp [Graph.get?, leafNodes]
    · have hrest := ih (nodes ++ [.scalar .str e.1, .scalar .str e.2])
      simpa [leafNodes] using hrest

theorem hasLeaves_mappingGraph (entries : List (List Char × List Char)) :
    (mappingGraph entries).HasLeaves 1 entries :=
  hasLeaves_append [.mapping .map (leafIds 1 entries)] entries

/-- The keys are texts. -/
theorem Graph.HasLeaves.get?_key (h : g.HasLeaves first entries) :
    ∀ e ∈ leafIds first entries, ∃ s, g.get? e.1 = some (.scalar .str s) := by
  induction entries generalizing first with
  | nil => simp [leafIds]
  | cons d entries ih =>
    intro e he
    obtain rfl | he := List.mem_cons.mp he
    · exact ⟨d.1, h.1⟩
    · exact ih h.2.2 e he

/-! ## Merging -/

/-- Keys that are texts stay as they are. -/
theorem foldl_settleKey {es : List (NodeId × NodeId)}
    (h : ∀ e ∈ es, ∃ s, g.get? e.1 = some (.scalar .str s)) :
    es.foldl (fun g e ↦ g.settleKey e.1) g = g := by
  induction es with
  | nil => rfl
  | cons e es ih =>
    obtain ⟨s, hs⟩ := h e List.mem_cons_self
    have hsettle : g.settleKey e.1 = g := by
      simp [Graph.settleKey, hs, Node.tag]
    rw [List.foldl_cons, hsettle]
    exact ih fun d hd ↦ h d (List.mem_cons_of_mem e hd)

theorem entries_mappingGraph : (mappingGraph entries).entries 0 = leafIds 1 entries := rfl

/-- A mapping of texts has no merges, and its keys are no equals signs that would become texts. -/
theorem merge?_mappingGraph (entries : List (List Char × List Char)) :
    (mappingGraph entries).merge? 0 = some (mappingGraph entries) := by
  have hkeys := (hasLeaves_mappingGraph entries).get?_key
  have hmerge : (mappingGraph entries).takeMerge? 0 = none := by
    have hnone : ((mappingGraph entries).entries 0).find?
        (fun e ↦ (mappingGraph entries).hasTag .merge e.1) = none := by
      refine List.find?_eq_none.mpr fun e he ↦ ?_
      obtain ⟨s, hs⟩ := hkeys e he
      simp [Graph.hasTag, hs, Node.tag]
    rw [Graph.takeMerge?]
    simp only [hnone, Option.map_none]
  have hset : (mappingGraph entries).setEntries 0 (leafIds 1 entries) = mappingGraph entries := by
    simp [Graph.setEntries, mappingGraph, Graph.get?, Graph.set]
  have hsettle : (mappingGraph entries).settle 0 [] = mappingGraph entries := by
    rw [Graph.settle, entries_mappingGraph, foldl_settleKey hkeys]
    exact hset
  rw [Graph.merge?, Graph.mergeWith?, hmerge]
  simp only [hsettle]

/-! ## Looking at nodes -/

/-- What the node of a text stands for. -/
def textContent (s : List Char) : Option Content :=
  some (.scalar (.text (String.ofList s)))

/-- What the keys and values of some entries stand for. -/
def leafContents (entries : List (List Char × List Char)) : List (Option Content) :=
  entries.flatMap fun e ↦ [textContent e.1, textContent e.2]

/-- The keys of some entries and the places of their values, from a first place on. -/
def keyedIds (first : NodeId) : List (List Char × List Char) → List (Scalar × NodeId)
  | [] => []
  | e :: entries => (.text (String.ofList e.1), first + 1) :: keyedIds (first + 2) entries

/-- What is known of the keys and values of some entries before they are looked at. -/
def unknownContents (entries : List (List Char × List Char)) : List (Option Content) :=
  entries.flatMap fun _ ↦ [none, none]

theorem replicate_none (entries : List (List Char × List Char)) :
    List.replicate (leafNodes entries).length none = unknownContents entries := by
  induction entries with
  | nil => rfl
  | cons e entries ih => simpa [leafNodes, unknownContents, List.replicate_succ] using ih

theorem exists_of_mem_keyedIds {d : Scalar × NodeId} (hd : d ∈ keyedIds first entries) :
    ∃ key ∈ entries.map Prod.fst, d.1 = .text (String.ofList key) := by
  induction entries generalizing first with
  | nil => contradiction
  | cons e entries ih =>
    obtain rfl | hd := List.mem_cons.mp hd
    · exact ⟨e.1, List.mem_cons_self, rfl⟩
    · obtain ⟨key, hkey, hd⟩ := ih hd
      exact ⟨key, List.mem_cons_of_mem e.1 hkey, hd⟩

/-- Different texts are different keys. -/
theorem pairwise_keyedIds (hkeys : (entries.map Prod.fst).Nodup) (first : NodeId) :
    (keyedIds first entries).Pairwise fun e d ↦ Scalar.SameKey e.1 d.1 = false := by
  induction entries generalizing first with
  | nil => exact List.Pairwise.nil
  | cons e entries ih =>
    rw [List.map_cons, List.nodup_cons] at hkeys
    refine List.Pairwise.cons (fun d hd ↦ ?_) (ih hkeys.2 (first + 2))
    obtain ⟨key, hkey, hd⟩ := exists_of_mem_keyedIds hd
    rw [hd, Scalar.sameKey_text]
    refine beq_eq_false_iff_ne.mpr fun heq ↦ hkeys.1 ?_
    rw [String.ofList_injective heq]
    exact hkey

namespace Survey

/-- A text that has not been looked at. -/
theorem visit_text {id : NodeId} (hnode : g.get? id = some (.scalar .str s))
    (hid : known.length = id) :
    visit ⟨g, (known ++ none :: unknown).toArray, waiting⟩ id
      = .ok ⟨g, (known ++ [textContent s] ++ unknown).toArray, waiting⟩ := by
  subst hid
  rw [visit]
  simp [content?, hnode, emptyOf, Node.tag, Graph.scalar, Graph.text?, Tag.scalar, Except.map,
    record, textContent]

theorem visitKey_text {id : NodeId} (hnode : g.get? id = some (.scalar .str s))
    (hid : known.length = id) :
    visitKey ⟨g, (known ++ none :: unknown).toArray, waiting⟩ id
      = .ok (.text (String.ofList s),
          ⟨g, (known ++ [textContent s] ++ unknown).toArray, waiting⟩) := by
  rw [visitKey, visit_text hnode hid]
  simp [content?, textContent, ← hid]

/-- The entries of a mapping of texts are looked at in their order. -/
theorem visitEntries_leafIds (h : g.HasLeaves first entries) (hfirst : known.length = first) :
    visitEntries ⟨g, (known ++ unknownContents entries).toArray, waiting⟩ (leafIds first entries)
      = .ok (keyedIds first entries, ⟨g, (known ++ leafContents entries).toArray, waiting⟩) := by
  induction entries generalizing known first with
  | nil => rfl
  | cons e entries ih =>
    obtain ⟨hkey, hvalue, hrest⟩ := h
    have hunknown : known ++ unknownContents (e :: entries)
        = known ++ none :: none :: unknownContents entries := rfl
    have hknown : known ++ leafContents (e :: entries)
        = known ++ [textContent e.1] ++ [textContent e.2] ++ leafContents entries := by
      simp [leafContents]
    rw [hunknown, hknown, leafIds, visitEntries, visitKey_text hkey hfirst]
    simp only
    rw [visit_text hvalue (by simp [hfirst])]
    simp only
    rw [ih hrest (by simp [hfirst])]
    rfl

/-- The only collection of a mapping of texts is the mapping itself. -/
theorem fill_mappingGraph (hkeys : (entries.map Prod.fst).Nodup) :
    fill ⟨mappingGraph entries, (some (.map []) :: unknownContents entries).toArray, waiting⟩ 0
      = .ok ⟨mappingGraph entries,
          (some (.map (keyedIds 1 entries)) :: leafContents entries).toArray, waiting⟩ := by
  have hnode : (mappingGraph entries).get? 0 = some (.mapping .map (leafIds 1 entries)) := rfl
  have hlength : ([some (.map [])] : List (Option Content)).length = 1 := rfl
  have hvisit : visitEntries
      ⟨mappingGraph entries, (some (.map []) :: unknownContents entries).toArray, waiting⟩
      (leafIds 1 entries) = _ :=
    visitEntries_leafIds (hasLeaves_mappingGraph entries) hlength
  have hpairs : Association.ofPairs Scalar.SameKey (keyedIds 1 entries) = keyedIds 1 entries :=
    Association.ofPairs_of_pairwise (pairwise_keyedIds hkeys 1)
  rw [fill, hnode]
  simp only [visitMapping, merge?_mappingGraph, entries_mappingGraph, hvisit, Except.map, hpairs]
  simp [record]

end Survey

/-- The contents of the nodes of a mapping of texts. -/
theorem contents_mappingGraph (hkeys : (entries.map Prod.fst).Nodup) :
    (mappingGraph entries).contents 0
      = .ok (some (.map (keyedIds 1 entries)) :: leafContents entries).toArray := by
  have hnode : (mappingGraph entries).get? 0 = some (.mapping .map (leafIds 1 entries)) := rfl
  have hsize : (mappingGraph entries).size = (leafNodes entries).length + 1 := by
    simp [mappingGraph, Graph.size]
  have hunknown : Array.replicate ((leafNodes entries).length + 1) none
      = (none :: unknownContents entries).toArray := by
    rw [← List.toArray_replicate, List.replicate_succ, replicate_none]
  have hvisit : Survey.visit ⟨mappingGraph entries, (none :: unknownContents entries).toArray, []⟩ 0
      = .ok ⟨mappingGraph entries, (some (.map []) :: unknownContents entries).toArray, [0]⟩ := by
    simp [Survey.visit, Survey.content?, hnode, Survey.emptyOf, Node.tag, Survey.record]
  have hdone (fuel : Nat) (cs : Contents) : Survey.fillAll fuel ⟨mappingGraph entries, cs, []⟩
      = .ok ⟨mappingGraph entries, cs, []⟩ := by
    cases fuel with
    | zero => rfl
    | succ fuel => rfl
  rw [Graph.contents, hsize, hunknown]
  simp only [hvisit, Survey.fillAll, Survey.fill_mappingGraph hkeys, hdone]
  rfl

/-! ## The document -/

/-- A text stands for itself. -/
theorem Contents.documentAt_text {cs : Contents} {id : NodeId} (h : cs.at? id = textContent s)
    (fuel : Nat) (around : List NodeId) :
    cs.documentAt (fuel + 1) around id = .scalar (.text (String.ofList s)) := by
  rw [documentAt, h, textContent]
  simp only
  rw [valueAt, h, textContent]

theorem map_documentAt_keyedIds (entries : List (List Char × List Char)) (fuel : Nat)
    (around : List NodeId) (hfirst : known.length = first) :
    ((keyedIds first entries).map fun e ↦
        (e.1, Contents.documentAt (known ++ leafContents entries).toArray (fuel + 1) around e.2))
      = entries.map fun e ↦ (.text (String.ofList e.1), .scalar (.text (String.ofList e.2))) := by
  induction entries generalizing known first with
  | nil => rfl
  | cons e entries ih =>
    have hknown : known ++ leafContents (e :: entries)
        = known ++ [textContent e.1] ++ [textContent e.2] ++ leafContents entries := by
      simp [leafContents]
    have hvalue : Contents.at?
        (known ++ [textContent e.1] ++ [textContent e.2] ++ leafContents entries).toArray
          (first + 1) = textContent e.2 := by
      simp [Contents.at?, ← hfirst, textContent]
    rw [keyedIds, List.map_cons, List.map_cons, hknown, Contents.documentAt_text hvalue,
      ih (by simp [hfirst])]

/-- **The document of a mapping of texts.** -/
theorem document_mappingGraph (hkeys : (entries.map Prod.fst).Nodup) :
    (mappingGraph entries).document 0
      = .ok (.map (entries.map fun e ↦
          (.text (String.ofList e.1), .scalar (.text (String.ofList e.2))))) := by
  have hroot : Contents.at? (some (.map (keyedIds 1 entries)) :: leafContents entries).toArray 0
      = some (.map (keyedIds 1 entries)) := rfl
  have hsize : (some (.map (keyedIds 1 entries)) :: leafContents entries).toArray.size
      = (leafContents entries).length + 1 := rfl
  have hlength : [some (Content.map (keyedIds 1 entries))].length = 1 := rfl
  have hvalues := map_documentAt_keyedIds entries (leafContents entries).length [0] hlength
  rw [List.singleton_append] at hvalues
  rw [Graph.document, contents_mappingGraph hkeys]
  simp only [Except.map, hsize]
  rw [Contents.documentAt, hroot]
  simp only [List.contains_nil, Bool.false_eq_true, if_false]
  exact congrArg (fun es ↦ Except.ok (Document.map es)) hvalues

end TableProperties.Yaml
