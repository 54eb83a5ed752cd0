import Mathlib.Data.List.Nodup
import Mathlib.Data.List.Perm.Subperm
import TableProperties.Proofs.Mapping

/-!
# Overlays of ordered mappings

An ordered mapping is determined by its keys, in their order, and by its values, so an equation
between overlays is an equation of both. From the one law that an insertion into the upper mapping
is an insertion into the overlay follow the others by induction on the pairs that are inserted:
overlays can be put together in any grouping, and it does not matter whether pairs are collected
before they are laid over a mapping.

## Main statements

* `ext_of_keys`, `eq_ofList_iff`, `same_iff`: equality, and equality up to order.
* `merge_assoc`, `merge_ofList`: overlays of overlays.
* `entries_merge_of_disjoint`: overlays without a key in common.
-/

namespace TableProperties.Mapping

variable {α : Type u} {m n : Mapping α} {key other : String}

/-! ## Equality -/

private theorem map_get?_keys (m : Mapping α) :
    m.keys.map (fun key ↦ (key, m.get? key)) = m.entries.map fun e ↦ (e.1, some e.2) := by
  rw [keys, List.map_map]
  refine List.map_congr_left fun e he ↦ ?_
  rw [Function.comp_apply, get?_eq_some_iff.mpr he]

/-- A mapping is determined by its keys, in their order, and by its values. -/
theorem ext_of_keys (hkeys : m.keys = n.keys) (hget : ∀ key, m.get? key = n.get? key) : m = n := by
  have hentries : m.entries.map (fun e ↦ (e.1, some e.2))
      = n.entries.map fun e ↦ (e.1, some e.2) := by
    rw [← map_get?_keys, ← map_get?_keys, hkeys]
    exact List.map_congr_left fun key _ ↦ by rw [hget]
  have hinj : Function.Injective fun e : String × α ↦ (e.1, some e.2) := by
    rintro ⟨key, value⟩ ⟨key', value'⟩ h
    obtain ⟨hkey, hvalue⟩ := Prod.mk.inj h
    exact Prod.ext hkey (Option.some.inj hvalue)
  exact ext (hinj.list_map hentries)

/-- The mapping of some pairs has their keys in the order of first occurrences, each with the value
of its last occurrence, and it is the only such mapping. -/
theorem eq_ofList_iff {pairs : List (String × α)} :
    m = ofList pairs ↔ m.keys = (pairs.map Prod.fst).eraseDups ∧
      ∀ key, m.get? key = lastValue? (· == key) pairs := by
  constructor
  · rintro rfl
    exact ⟨keys_ofList pairs, get?_ofList pairs⟩
  · rintro ⟨hkeys, hget⟩
    exact ext_of_keys (hkeys.trans (keys_ofList pairs).symm) fun key ↦
      (hget key).trans (get?_ofList pairs key).symm

theorem mem_keys_iff_get?_ne_none : key ∈ m.keys ↔ m.get? key ≠ none := by
  rw [ne_eq, get?_eq_none_iff, not_not]

/-- Mappings are the same up to order exactly if they agree on every key. -/
theorem same_iff [BEq α] [LawfulBEq α] :
    m.Same n = true ↔ ∀ key, m.get? key = n.get? key := by
  have hlength (m : Mapping α) : m.size = m.keys.length := (List.length_map Prod.fst).symm
  rw [Same, Bool.and_eq_true, beq_iff_eq, List.all_eq_true, hlength, hlength]
  constructor
  · rintro ⟨hsize, hall⟩ key
    have hvalue {other : String} {value : α} (h : m.get? other = some value) :
        n.get? other = some value :=
      beq_iff_eq.mp (hall (other, value) (get?_eq_some_iff.mp h))
    cases hm : m.get? key with
    | some value => rw [hvalue hm]
    | none =>
      -- the keys of `m` are among those of `n`, and there are as many of them
      have hsub : List.Subperm m.keys n.keys := by
        refine List.subperm_of_subset m.nodup_keys fun other hother ↦ ?_
        obtain ⟨value, hmem⟩ := mem_keys_iff.mp hother
        exact mem_keys_iff.mpr ⟨value, get?_eq_some_iff.mp (hvalue (get?_eq_some_iff.mpr hmem))⟩
      have hperm := hsub.perm_of_length_le (Nat.le_of_eq hsize.symm)
      rw [get?_eq_none_iff, hperm.mem_iff, ← get?_eq_none_iff] at hm
      exact hm.symm
  · intro hget
    constructor
    · have hmem (key : String) : key ∈ m.keys ↔ key ∈ n.keys := by
        rw [mem_keys_iff_get?_ne_none, mem_keys_iff_get?_ne_none, hget]
      exact ((List.perm_ext_iff_of_nodup m.nodup_keys n.nodup_keys).mpr hmem).length_eq
    · intro e he
      rw [← hget, get?_eq_some_iff.mpr he]
      exact BEq.rfl

/-! ## Overlays of overlays -/

/-- An insertion into the upper mapping is an insertion into the overlay. -/
theorem merge_insert (m n : Mapping α) (key : String) (value : α) :
    m.merge (n.insert key value) = (m.merge n).insert key value := by
  refine ext_of_keys ?_ fun other ↦ ?_
  · have hmem : key ∈ (m.merge n).keys ↔ key ∈ m.keys ∨ key ∈ n.keys := mem_keys_merge
    rw [keys_insert, keys_merge, keys_insert]
    by_cases hn : key ∈ n.keys
    · rw [if_pos hn, if_pos (hmem.mpr (.inr hn)), keys_merge]
    · rw [if_neg hn, List.filter_append, ← List.append_assoc, ← keys_merge]
      by_cases hm : key ∈ m.keys
      · rw [if_pos (hmem.mpr (.inl hm))]
        simp [contains_iff.mpr hm]
      · rw [if_neg (hmem.not.mpr (not_or.mpr ⟨hm, hn⟩))]
        simp [contains_eq_false_iff.mpr hm]
  · rw [get?_merge, get?_insert, get?_insert, get?_merge]
    by_cases h : other = key
    · rw [if_pos h, if_pos h, Option.some_or]
    · rw [if_neg h, if_neg h]

theorem merge_insertMany (m n : Mapping α) (pairs : List (String × α)) :
    m.merge (n.insertMany pairs) = (m.merge n).insertMany pairs := by
  induction pairs generalizing n with
  | nil => rfl
  | cons p ps ih => rw [insertMany_cons, ih, merge_insert, insertMany_cons]

/-- Overlays can be put together in any grouping. -/
theorem merge_assoc (m n o : Mapping α) : (m.merge n).merge o = m.merge (n.merge o) :=
  (merge_insertMany m n o.entries).symm

/-- Laying the mapping of some pairs over another one is inserting the pairs. -/
theorem merge_ofList (m : Mapping α) (pairs : List (String × α)) :
    m.merge (ofList pairs) = m.insertMany pairs :=
  merge_insertMany m empty pairs

@[simp] theorem empty_merge (m : Mapping α) : empty.merge m = m :=
  ofList_entries m

/-! ## Overlays without a key in common -/

/-- Without a key in common, the entries of an overlay stand one behind the other. -/
theorem entries_merge_of_disjoint (h : ∀ key ∈ m.keys, key ∉ n.keys) :
    (m.merge n).entries = m.entries ++ n.entries := by
  rw [entries_merge]
  congr 1
  · refine (List.map_congr_left fun e he ↦ ?_).trans (List.map_id m.entries)
    rw [get?_eq_none_iff.mpr (h e.1 (mem_keys_iff.mpr ⟨e.2, he⟩))]
    rfl
  · refine List.filter_eq_self.mpr fun e he ↦ ?_
    have hfree : e.1 ∉ m.keys := fun hmem ↦ h e.1 hmem (mem_keys_iff.mpr ⟨e.2, he⟩)
    rw [contains_eq_false_iff.mpr hfree, Bool.not_false]

/-- Without a key in common, either mapping can be the upper one, as far as the values go. -/
theorem get?_merge_comm (h : ∀ key ∈ m.keys, key ∉ n.keys) (key : String) :
    (m.merge n).get? key = (n.merge m).get? key := by
  rw [get?_merge, get?_merge]
  by_cases hkey : key ∈ m.keys
  · rw [get?_eq_none_iff.mpr (h key hkey), Option.none_or, Option.or_none]
  · rw [get?_eq_none_iff.mpr hkey, Option.none_or, Option.or_none]

end TableProperties.Mapping
