import TableProperties.PropertiesFile.Load
import TableProperties.Proofs.Except
import TableProperties.Proofs.Mapping

/-!
# Flat documents

A mapping of texts to texts has nothing to flatten: as a document it keeps its entries and their
order, and its properties are the mapping itself, whatever characters its keys contain. In
particular a key with dots in it stays one key.

## Main statements

* `ofEntries_texts`: no entry of such a document replaces another one.
* `properties_ofTexts`: its properties.
-/

namespace TableProperties

/-! ## Entries whose keys are different -/

namespace Association

variable {κ : Type u} {α : Type v} {same : κ → κ → Bool}

theorem put_of_forall_ne {key : κ} {value : α} {entries : List (κ × α)}
    (h : ∀ e ∈ entries, same e.1 key = false) :
    put same key value entries = entries ++ [(key, value)] := by
  induction entries with
  | nil => rfl
  | cons e rest ih =>
    rw [put, h e List.mem_cons_self, if_neg Bool.false_ne_true,
      ih fun d hd ↦ h d (List.mem_cons_of_mem e hd)]
    rfl

theorem foldl_put_of_pairwise {found pairs : List (κ × α)}
    (h : (found ++ pairs).Pairwise fun e d ↦ same e.1 d.1 = false) :
    pairs.foldl (fun entries p ↦ put same p.1 p.2 entries) found = found ++ pairs := by
  induction pairs generalizing found with
  | nil => exact (List.append_nil found).symm
  | cons p rest ih =>
    have hput : put same p.1 p.2 found = found ++ [p] :=
      put_of_forall_ne fun e he ↦
        (List.pairwise_append.mp h).2.2 e he p List.mem_cons_self
    rw [List.append_cons] at h ⊢
    rw [List.foldl_cons, hput, ih h]

/-- Where no two keys are the same, nothing is replaced. -/
theorem ofPairs_of_pairwise {pairs : List (κ × α)}
    (h : pairs.Pairwise fun e d ↦ same e.1 d.1 = false) : ofPairs same pairs = pairs :=
  foldl_put_of_pairwise h

end Association

/-! ## Keys that are texts -/

theorem Scalar.sameKey_text (s t : String) : SameKey (.text s) (.text t) = (s == t) := by
  have htext : SameKey (.text s) (.text t) = (Scalar.text s == Scalar.text t) := rfl
  rw [htext, Bool.eq_iff_iff, beq_iff_eq, beq_iff_eq, Scalar.text.injEq]

/-- Entries under different texts stay as they are, whatever their values are. -/
theorem Association.ofPairs_texts {α : Type u} {pairs : List (String × α)}
    (h : (pairs.map Prod.fst).Nodup) :
    ofPairs Scalar.SameKey (pairs.map fun e ↦ (.text e.1, e.2))
      = pairs.map fun e ↦ (.text e.1, e.2) := by
  refine ofPairs_of_pairwise (List.pairwise_map.mpr ?_)
  refine (List.pairwise_map.mp h).imp fun {e d} hne ↦ ?_
  rw [Scalar.sameKey_text]
  exact beq_eq_false_iff_ne.mpr hne

/-! ## Documents of texts -/

namespace Document

/-- The document of some properties: a mapping of texts. -/
def ofTexts (properties : Mapping String) : Document :=
  .map (properties.entries.map fun e ↦ (.text e.1, .scalar (.text e.2)))

/-- No entry of such a document replaces another one. -/
theorem ofEntries_texts (properties : Mapping String) :
    ofEntries (properties.entries.map fun e ↦ (.text e.1, .scalar (.text e.2)))
      = ofTexts properties := by
  have hnodup : ((properties.entries.map fun e ↦ (e.1, scalar (.text e.2))).map Prod.fst).Nodup := by
    rw [List.map_map]
    exact properties.nodup_keys
  have hpairs := Association.ofPairs_texts hnodup
  rw [List.map_map] at hpairs
  exact congrArg map hpairs

end Document

/-! ## Flattening -/

theorem flattenAt_text (key value : String) :
    flattenAt key (.scalar (.text value)) = .ok (Mapping.empty.insert key value) := by
  have hproperty : (Document.scalar (.text value)).property = .ok value := by
    rw [Document.property]
    · exact congrArg Except.ok String.ofList_toList
    all_goals simp
  rw [flattenAt, hproperty]
  · rfl
  · simp

theorem flattenEntries_texts (found : Mapping String) (entries : List (String × String)) :
    flattenEntries "" found (entries.map fun e ↦ (.text e.1, .scalar (.text e.2)))
      = .ok (found.insertMany entries) := by
  induction entries generalizing found with
  | nil => rfl
  | cons e rest ih =>
    have hkey : writable (Scalar.text e.1).text? = .ok e.1 :=
      congrArg Except.ok String.ofList_toList
    rw [List.map_cons, flattenEntries, hkey]
    simp only [flattenAt_text, String.empty_append]
    exact ih (found.insert e.1 e.2)

/-- **The properties of a document of texts** are those it was made from, in their order. -/
theorem Document.properties_ofTexts (properties : Mapping String) :
    (ofTexts properties).properties = .ok properties := by
  have hflat : flatten (properties.entries.map fun e ↦ (.text e.1, .scalar (.text e.2)))
      = .ok properties := by
    rw [flatten, flattenEntries_texts]
    exact congrArg Except.ok properties.ofList_entries
  rw [ofTexts, Document.properties, hflat]
  rfl

end TableProperties
