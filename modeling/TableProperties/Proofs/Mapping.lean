import TableProperties.Mapping

/-!
# Lookups in ordered mappings

What insertions and overlays do to the values and to the order of an ordered mapping. A value that
comes out of a run of insertions is that of the *last* entry under its key, so the lookups are
phrased by `lastValue?`, for a condition on keys and not only for one key: entries are often
inserted under another key than the one they came with.

## Main statements

* `get?_insertMany_map`: the values after entries were inserted under new keys.
* `get?_merge`, `entries_merge`: the values and the order of an overlay.
* `ofList_entries`: a mapping is that of its own entries.
* `keys_ofList`, `get?_ofList`: the keys and the values of a mapping that was made from pairs.
-/

namespace TableProperties

/-! ## The last value under a condition -/

section LastValue

variable {α : Type u}

/-- The value of the last entry whose key meets a condition. -/
def lastValue? (cond : String → Bool) (entries : List (String × α)) : Option α :=
  ((entries.filter fun e ↦ cond e.1).getLast?).map Prod.snd

variable {cond : String → Bool} {entries : List (String × α)}

@[simp] theorem lastValue?_nil : lastValue? cond ([] : List (String × α)) = none := rfl

theorem lastValue?_append (xs ys : List (String × α)) :
    lastValue? cond (xs ++ ys) = (lastValue? cond ys).or (lastValue? cond xs) := by
  rw [lastValue?, List.filter_append, List.getLast?_append, Option.map_or]
  rfl

theorem lastValue?_singleton (e : String × α) :
    lastValue? cond [e] = if cond e.1 then some e.2 else none := by
  by_cases h : cond e.1 = true
  · simp [lastValue?, h]
  · simp [lastValue?, h]

theorem lastValue?_cons (e : String × α) (es : List (String × α)) :
    lastValue? cond (e :: es) = (lastValue? cond es).or (if cond e.1 then some e.2 else none) := by
  rw [← List.singleton_append, lastValue?_append, lastValue?_singleton]

theorem lastValue?_eq_none_iff :
    lastValue? cond entries = none ↔ ∀ e ∈ entries, cond e.1 = false := by
  simp [lastValue?]

theorem exists_mem_of_lastValue?_eq_some {value : α} (h : lastValue? cond entries = some value) :
    ∃ key, (key, value) ∈ entries ∧ cond key = true := by
  rw [lastValue?, Option.map_eq_some_iff] at h
  obtain ⟨⟨key, value⟩, hlast, rfl⟩ := h
  obtain ⟨hmem, hcond⟩ := List.mem_filter.mp (List.mem_of_getLast? hlast)
  exact ⟨key, hmem, hcond⟩

theorem lastValue?_congr {cond' : String → Bool} (h : ∀ e ∈ entries, cond e.1 = cond' e.1) :
    lastValue? cond entries = lastValue? cond' entries := by
  rw [lastValue?, lastValue?, List.filter_congr h]

theorem lastValue?_map {β : Type v} (f : String → String) (g : String × α → β) :
    lastValue? cond (entries.map fun e ↦ (f e.1, g e))
      = ((entries.filter fun e ↦ cond (f e.1)).getLast?).map g := by
  rw [lastValue?, List.filter_map, List.getLast?_map, Option.map_map]
  rfl

end LastValue

namespace Mapping

variable {α : Type u} {m n : Mapping α} {key : String}

/-! ## Values -/

theorem get?_insertMany (m : Mapping α) (pairs : List (String × α)) (key : String) :
    (m.insertMany pairs).get? key = (lastValue? (· == key) pairs).or (m.get? key) := by
  induction pairs generalizing m with
  | nil => rfl
  | cons p ps ih =>
    rw [insertMany_cons, ih, lastValue?_cons, get?_insert, Option.or_assoc]
    by_cases h : key = p.1
    · simp [h]
    · simp [h, Ne.symm h]

/-- The values after entries have been inserted under new keys. -/
theorem get?_insertMany_map (m : Mapping α) (f : String → String) (entries : List (String × α))
    (key : String) :
    (m.insertMany (entries.map fun e ↦ (f e.1, e.2))).get? key
      = (lastValue? (fun k ↦ f k == key) entries).or (m.get? key) := by
  rw [get?_insertMany, lastValue?_map]
  rfl

theorem mem_keys_iff : key ∈ m.keys ↔ ∃ value, (key, value) ∈ m.entries := by
  rw [keys, List.mem_map]
  constructor
  · rintro ⟨⟨k, value⟩, hmem, rfl⟩
    exact ⟨value, hmem⟩
  · rintro ⟨value, hmem⟩
    exact ⟨(key, value), hmem, rfl⟩

private theorem lookup_eq_some_iff_of_nodup {entries : List (String × α)} {value : α}
    (h : (entries.map Prod.fst).Nodup) :
    entries.lookup key = some value ↔ (key, value) ∈ entries := by
  induction entries with
  | nil => simp
  | cons e es ih =>
    rw [List.map_cons, List.nodup_cons] at h
    rw [List.lookup_cons, List.mem_cons]
    by_cases hkey : key = e.1
    · subst hkey
      have hnot : (e.1, value) ∉ es := fun hmem ↦ h.1 (List.mem_map.mpr ⟨_, hmem, rfl⟩)
      simp [hnot, Prod.ext_iff, eq_comm]
    · have hne : (key == e.1) = false := beq_eq_false_iff_ne.mpr hkey
      have hentry : (key, value) ≠ e := fun heq ↦ hkey (congrArg Prod.fst heq)
      simp [hne, hentry, ih h.2]

theorem get?_eq_some_iff {value : α} : m.get? key = some value ↔ (key, value) ∈ m.entries :=
  lookup_eq_some_iff_of_nodup m.nodup_keys

theorem get?_eq_none_iff : m.get? key = none ↔ key ∉ m.keys := by
  rw [mem_keys_iff, not_exists, Option.eq_none_iff_forall_ne_some]
  exact forall_congr' fun value ↦ not_congr get?_eq_some_iff

theorem contains_iff : m.contains key = true ↔ key ∈ m.keys := by
  rw [contains, Option.isSome_iff_ne_none, ne_eq, get?_eq_none_iff, Classical.not_not]

theorem contains_eq_false_iff : m.contains key = false ↔ key ∉ m.keys := by
  rw [Bool.eq_false_iff, ne_eq, contains_iff]

theorem contains_insert_of_ne {other : String} {value : α} (h : other ≠ key) :
    (m.insert key value).contains other = m.contains other := by
  rw [contains, contains, get?_insert, if_neg h]

/-- A key stands in a mapping once, so that its last value is its value. -/
theorem lastValue?_entries (m : Mapping α) (key : String) :
    lastValue? (· == key) m.entries = m.get? key := by
  cases hlast : lastValue? (· == key) m.entries with
  | none =>
    rw [lastValue?_eq_none_iff] at hlast
    refine (get?_eq_none_iff.mpr fun hmem ↦ ?_).symm
    obtain ⟨value, hvalue⟩ := mem_keys_iff.mp hmem
    exact absurd (hlast _ hvalue) (by simp)
  | some value =>
    obtain ⟨k, hmem, hk⟩ := exists_mem_of_lastValue?_eq_some hlast
    rw [beq_iff_eq] at hk
    exact (get?_eq_some_iff.mpr (hk ▸ hmem)).symm

/-- The last value under a condition is that of the last key that meets it. -/
theorem lastValue?_entries_eq_bind (m : Mapping α) (cond : String → Bool) :
    lastValue? cond m.entries = (m.keys.filter cond).getLast?.bind m.get? := by
  rw [lastValue?, keys, List.filter_map, List.getLast?_map]
  cases hlast : (m.entries.filter (cond ∘ Prod.fst)).getLast? with
  | none => exact congrArg (Option.map Prod.snd) hlast
  | some e =>
    have hmem := (List.mem_filter.mp (List.mem_of_getLast? hlast)).1
    have hvalue : m.get? e.1 = some e.2 := get?_eq_some_iff.mpr hmem
    exact (congrArg (Option.map Prod.snd) hlast).trans hvalue.symm

theorem get?_merge (m n : Mapping α) (key : String) :
    (m.merge n).get? key = (n.get? key).or (m.get? key) := by
  rw [merge, get?_insertMany, lastValue?_entries]

/-! ## Order -/

theorem putEntry_of_not_mem {value : α} {entries : List (String × α)}
    (h : key ∉ entries.map Prod.fst) : putEntry key value entries = entries ++ [(key, value)] := by
  induction entries with
  | nil => rfl
  | cons e es ih =>
    rw [List.map_cons, List.mem_cons, not_or] at h
    rw [putEntry_cons, if_neg (Ne.symm h.1), ih h.2]
    rfl

theorem mem_keys_insertMany {pairs : List (String × α)} :
    key ∈ (m.insertMany pairs).keys ↔ key ∈ m.keys ∨ key ∈ pairs.map Prod.fst := by
  induction pairs generalizing m with
  | nil => simp
  | cons p ps ih =>
    rw [insertMany_cons, ih, keys_insert, List.map_cons, List.mem_cons]
    by_cases h : p.1 ∈ m.keys
    · rw [if_pos h]
      constructor
      · rintro (hm | hps)
        · exact .inl hm
        · exact .inr (.inr hps)
      · rintro (hm | rfl | hps)
        · exact .inl hm
        · exact .inl h
        · exact .inr hps
    · rw [if_neg h, List.mem_append, List.mem_singleton, or_assoc]

theorem mem_keys_merge : key ∈ (m.merge n).keys ↔ key ∈ m.keys ∨ key ∈ n.keys :=
  mem_keys_insertMany

theorem putEntry_of_mem {value : α} {entries : List (String × α)}
    (hnodup : (entries.map Prod.fst).Nodup) (h : key ∈ entries.map Prod.fst) :
    putEntry key value entries = entries.map fun e ↦ (e.1, if e.1 = key then value else e.2) := by
  induction entries with
  | nil => exact absurd h (by simp)
  | cons e es ih =>
    rw [List.map_cons, List.nodup_cons] at hnodup
    rw [putEntry_cons, List.map_cons]
    by_cases hkey : e.1 = key
    · -- no other entry has the key, so the others stay as they are
      have hrest : es.map (fun d ↦ (d.1, if d.1 = key then value else d.2)) = es.map id := by
        refine List.map_congr_left fun d hd ↦ ?_
        have hne : d.1 ≠ key := fun heq ↦ hnodup.1 (List.mem_map.mpr ⟨d, hd, heq.trans hkey.symm⟩)
        rw [if_neg hne]
        rfl
      rw [if_pos hkey, if_pos hkey, hrest, List.map_id, hkey]
    · rw [List.map_cons, List.mem_cons] at h
      rw [if_neg hkey, if_neg hkey, ih hnodup.2 (h.resolve_left (Ne.symm hkey))]

private theorem getD_lookup_cons (p : String × α) (ps : List (String × α)) (e : String × α) :
    ((p :: ps).lookup e.1).getD e.2 = if e.1 = p.1 then p.2 else (ps.lookup e.1).getD e.2 := by
  by_cases h : e.1 = p.1
  · have hself : (e.1 == p.1) = true := beq_iff_eq.mpr h
    rw [List.lookup_cons, hself, if_pos h]
    rfl
  · have hother : (e.1 == p.1) = false := beq_eq_false_iff_ne.mpr h
    rw [List.lookup_cons, hother, if_neg h]

/-- Insertions leave the entries that are there in their places and put the new ones behind them. -/
theorem entries_insertMany (m : Mapping α) {pairs : List (String × α)}
    (hpairs : (pairs.map Prod.fst).Nodup) :
    (m.insertMany pairs).entries
      = (m.entries.map fun e ↦ (e.1, (pairs.lookup e.1).getD e.2))
        ++ pairs.filter fun p ↦ !m.contains p.1 := by
  induction pairs generalizing m with
  | nil =>
    rw [List.filter_nil, List.append_nil]
    exact (List.map_id m.entries).symm
  | cons p ps ih =>
    rw [List.map_cons, List.nodup_cons] at hpairs
    have hlookup : ps.lookup p.1 = none := by
      rw [List.lookup_eq_none_iff]
      intro e he
      exact bne_iff_ne.mpr fun heq ↦ hpairs.1 (List.mem_map.mpr ⟨e, he, heq.symm⟩)
    have hfilter : ps.filter (fun e ↦ !(m.insert p.1 p.2).contains e.1)
        = ps.filter fun e ↦ !m.contains e.1 := by
      refine List.filter_congr fun e he ↦ ?_
      have hne : e.1 ≠ p.1 := fun heq ↦ hpairs.1 (List.mem_map.mpr ⟨e, he, heq⟩)
      rw [contains_insert_of_ne hne]
    rw [insertMany_cons, ih (m.insert p.1 p.2) hpairs.2, hfilter, entries_insert,
      List.filter_cons]
    by_cases hmem : p.1 ∈ m.keys
    · -- the entry of the key gets the new value in its place
      have hcontains : m.contains p.1 = true := contains_iff.mpr hmem
      rw [putEntry_of_mem m.nodup_keys hmem, List.map_map, hcontains]
      refine congrArg (· ++ _) (List.map_congr_left fun e _ ↦ Prod.ext rfl ?_)
      simp only [Function.comp_apply, getD_lookup_cons]
      by_cases hne : e.1 = p.1
      · simp [hne, hlookup]
      · simp [hne]
    · -- the new entry is the first one behind those that are there
      have hcontains : m.contains p.1 = false := by
        rw [Bool.eq_false_iff, ne_eq, contains_iff]
        exact hmem
      rw [putEntry_of_not_mem hmem, List.map_append, hcontains]
      have hmap : m.entries.map (fun e ↦ (e.1, ((p :: ps).lookup e.1).getD e.2))
          = m.entries.map fun e ↦ (e.1, (ps.lookup e.1).getD e.2) := by
        refine List.map_congr_left fun e he ↦ ?_
        have hne : e.1 ≠ p.1 := fun heq ↦ hmem (List.mem_map.mpr ⟨e, he, heq⟩)
        rw [getD_lookup_cons, if_neg hne]
      rw [hmap]
      simp [hlookup]

/-- An overlay keeps the order of the entries below and puts the new ones behind them. -/
theorem entries_merge (m n : Mapping α) :
    (m.merge n).entries
      = (m.entries.map fun e ↦ (e.1, (n.get? e.1).getD e.2))
        ++ n.entries.filter fun e ↦ !m.contains e.1 :=
  entries_insertMany m n.nodup_keys

theorem keys_merge (m n : Mapping α) :
    (m.merge n).keys = m.keys ++ n.keys.filter fun key ↦ !m.contains key := by
  rw [keys, entries_merge, List.map_append, List.map_map, keys, keys, List.filter_map]
  rfl

/-- A mapping is that of its own entries. -/
theorem ofList_entries (m : Mapping α) : ofList m.entries = m := by
  refine ext ?_
  rw [ofList, entries_insertMany empty m.nodup_keys, entries_empty, List.map_nil, List.nil_append]
  exact List.filter_eq_self.mpr fun e _ ↦ rfl

private theorem eraseDups_of_nodup {keys : List String} (h : keys.Nodup) :
    keys.eraseDups = keys := by
  induction keys with
  | nil => rfl
  | cons key rest ih =>
    obtain ⟨hkey, hrest⟩ := List.nodup_cons.mp h
    have hfilter : rest.filter (fun other ↦ !other == key) = rest := by
      refine List.filter_eq_self.mpr fun other hother ↦ ?_
      have hne : other ≠ key := fun heq ↦ hkey (heq ▸ hother)
      rw [beq_eq_false_iff_ne.mpr hne, Bool.not_false]
    rw [List.eraseDups_cons, hfilter, ih hrest]

/-- The keys after pairs were inserted: those that were there and then the new ones, each at its
first occurrence. -/
theorem keys_insertMany (m : Mapping α) (pairs : List (String × α)) :
    (m.insertMany pairs).keys = (m.keys ++ pairs.map Prod.fst).eraseDups := by
  induction pairs generalizing m with
  | nil =>
    rw [insertMany_nil, List.map_nil, List.append_nil]
    exact (eraseDups_of_nodup m.nodup_keys).symm
  | cons p ps ih =>
    rw [insertMany_cons, ih, keys_insert, List.map_cons]
    by_cases hkey : p.1 ∈ m.keys
    · have hremoved : (p.1 :: ps.map Prod.fst).removeAll m.keys
          = (ps.map Prod.fst).removeAll m.keys := by
        simp [List.removeAll, hkey]
      rw [if_pos hkey, List.eraseDups_append, List.eraseDups_append, hremoved]
    · rw [if_neg hkey, List.append_assoc, List.singleton_append]

theorem keys_ofList (pairs : List (String × α)) :
    (ofList pairs).keys = (pairs.map Prod.fst).eraseDups :=
  keys_insertMany empty pairs

theorem get?_ofList (pairs : List (String × α)) (key : String) :
    (ofList pairs).get? key = lastValue? (· == key) pairs := by
  rw [ofList, get?_insertMany, get?_empty, Option.or_none]

/-- Pairs whose keys are different are the entries of their mapping. -/
theorem entries_ofList {pairs : List (String × α)} (h : (pairs.map Prod.fst).Nodup) :
    (ofList pairs).entries = pairs :=
  congrArg entries (ofList_entries ⟨pairs, h⟩)

theorem lastValue?_mapValues {β : Type v} (f : α → β) (m : Mapping α) (cond : String → Bool) :
    lastValue? cond (m.mapValues f).entries = (lastValue? cond m.entries).map f := by
  refine (lastValue?_map id fun e ↦ f e.2).trans ?_
  rw [lastValue?, Option.map_map]
  rfl

theorem get?_mapValues {β : Type v} (f : α → β) (m : Mapping α) (key : String) :
    (m.mapValues f).get? key = (m.get? key).map f := by
  rw [← lastValue?_entries, ← lastValue?_entries, lastValue?_mapValues]

theorem mapValues_insert {β : Type v} (f : α → β) (m : Mapping α) (key : String) (value : α) :
    (m.insert key value).mapValues f = (m.mapValues f).insert key (f value) := by
  refine ext ?_
  obtain ⟨entries, hnodup⟩ := m
  change (putEntry key value entries).map (fun e ↦ (e.1, f e.2))
    = putEntry key (f value) (entries.map fun e ↦ (e.1, f e.2))
  clear hnodup
  induction entries with
  | nil => rfl
  | cons e es ih =>
    rw [putEntry_cons, List.map_cons, putEntry_cons]
    split
    · rfl
    · rw [List.map_cons, ih]

theorem mapValues_ofList {β : Type v} (f : α → β) (pairs : List (String × α)) :
    (ofList pairs).mapValues f = ofList (pairs.map fun e ↦ (e.1, f e.2)) := by
  have hmany (m : Mapping α) : (m.insertMany pairs).mapValues f
      = (m.mapValues f).insertMany (pairs.map fun e ↦ (e.1, f e.2)) := by
    induction pairs generalizing m with
    | nil => rfl
    | cons p ps ih => rw [insertMany_cons, ih, mapValues_insert, List.map_cons, insertMany_cons]
  exact hmany empty

end Mapping

end TableProperties
