import TableProperties.Proofs.Registry

/-!
# Registries ignore case

A registry is the map of the properties it was built from, under their keys in lower case. Lower
case is final, so that a text that is not in lower case is never found, and a key put into lower
case finds the property whose key is one of its spellings.

The order in which the properties are listed matters in two places only. It is the order of the
keys, and where keys agree in lower case it decides which property is reported, namely the first one
that repeats an earlier key. Whether there is a registry, and what is found in it, is the same for
every order.

## Main statements

* `build_eq_error_iff`: the first repeated key is reported.
* `lookup_eq_of_perm`: look-ups do not depend on the order.
* `build_ignoring_case`: what is built, and from what.
-/

namespace TableProperties.Registry

open Text (lowercase)

variable {r s : Registry} {p q : Property} {ps qs : List Property} {key : String}

/-! ## Repeated keys -/

/-- The first of some properties whose key repeats that of an earlier one, ignoring case. -/
def IsFirstRepeat (ps : List Property) (p : Property) : Prop :=
  ∃ front back, ps = front ++ p :: back ∧ (front.map fun q ↦ lowercase q.key).Nodup ∧
    ∃ q ∈ front, lowercase q.key = lowercase p.key

/-- One more property at the end can only be the first repeat if there was none so far. -/
theorem isFirstRepeat_append_singleton :
    IsFirstRepeat (ps ++ [p]) q ↔
      IsFirstRepeat ps q ∨
        (ps.map fun p ↦ lowercase p.key).Nodup ∧
          (∃ o ∈ ps, lowercase o.key = lowercase p.key) ∧ q = p := by
  constructor
  · rintro ⟨front, back, heq, hnodup, hrepeat⟩
    -- the first repeat is the last property, or it stands in front of the last one
    rcases List.eq_nil_or_concat' back with rfl | ⟨back, last, rfl⟩
    · obtain ⟨rfl, hlast⟩ := List.append_inj' heq rfl
      obtain rfl := List.singleton_inj.mp hlast
      exact .inr ⟨hnodup, hrepeat, rfl⟩
    · rw [← List.cons_append, ← List.append_assoc] at heq
      obtain ⟨rfl, -⟩ := List.append_inj' heq rfl
      exact .inl ⟨front, back, rfl, hnodup, hrepeat⟩
  · rintro (⟨front, back, rfl, hnodup, hrepeat⟩ | ⟨hnodup, hrepeat, rfl⟩)
    · refine ⟨front, back ++ [p], ?_, hnodup, hrepeat⟩
      rw [List.append_assoc, List.cons_append]
    · exact ⟨ps, [], rfl, hnodup, hrepeat⟩

/-- Building reports the first property that repeats an earlier key, by its own spelling. -/
theorem build_eq_error_iff {e : DuplicateKey} :
    build ps = .error e ↔ ∃ p, IsFirstRepeat ps p ∧ e = ⟨p.key⟩ := by
  induction ps using List.reverseRecOn with
  | nil => simp [IsFirstRepeat]
  | append_singleton ps p ih =>
    simp only [build_append_singleton, Except.bind_eq_error_iff, ih, isFirstRepeat_append_singleton,
      or_and_right, exists_or]
    -- what is left to compare is the last property, where those in front of it are registered
    refine or_congr Iff.rfl ?_
    constructor
    · rintro ⟨r, hr, hadd⟩
      obtain ⟨hmem, rfl⟩ := add_eq_error_iff.mp hadd
      rw [keys_of_build hr, List.mem_map] at hmem
      exact ⟨p, ⟨exists_build_iff.mp ⟨r, hr⟩, hmem, rfl⟩, rfl⟩
    · rintro ⟨q, ⟨hnodup, hrepeat, rfl⟩, rfl⟩
      obtain ⟨r, hr⟩ := exists_build_iff.mpr hnodup
      refine ⟨r, hr, add_eq_error_iff.mpr ⟨?_, rfl⟩⟩
      rw [keys_of_build hr]
      exact List.mem_map.mpr hrepeat

/-- Building fails exactly where two keys agree in lower case. -/
theorem exists_build_eq_error_iff :
    (∃ e, build ps = .error e) ↔
      ∃ (i j : Nat) (hi : i < ps.length) (hj : j < ps.length),
        i < j ∧ lowercase ps[i].key = lowercase ps[j].key := by
  rw [Except.exists_eq_error_iff, exists_build_iff, List.Nodup, List.pairwise_map,
    List.pairwise_iff_getElem]
  push Not
  rfl

/-! ## The map that ignores case -/

/-- A registry is the map of some properties under their keys in lower case. -/
structure IsMapOf (r : Registry) (ps : List Property) : Prop where
  /-- There is one entry for each property. -/
  size_eq : r.size = ps.length
  /-- The keys are those of the properties in lower case, in the order of the properties. -/
  keys_eq : r.keys = ps.map fun p ↦ lowercase p.key
  /-- A look-up finds the property whose key in lower case is the one that is looked up. -/
  lookup_eq_some_iff : ∀ key p, r.lookup key = some p ↔ p ∈ ps ∧ lowercase p.key = key
  /-- What a look-up finds can be fetched. -/
  fetch_eq_ok_iff : ∀ key p, r.fetch key = .ok p ↔ r.lookup key = some p
  /-- What a look-up does not find is reported with the key. -/
  fetch_eq_error_iff : ∀ key e, r.fetch key = .error e ↔ r.lookup key = none ∧ e = ⟨key⟩
  /-- The registry contains the keys that a look-up finds. -/
  contains_iff : ∀ key, r.contains key = true ↔ ∃ p, r.lookup key = some p
  /-- A text that is not in lower case is not found. -/
  lookup_eq_none : ∀ key, lowercase key ≠ key → r.lookup key = none
  /-- In lower case, a key finds the property whose key it is when case is ignored. -/
  lookup_lowercase_eq_some_iff : ∀ key p,
    r.lookup (lowercase key) = some p ↔ p ∈ ps ∧ lowercase key = lowercase p.key

/-- Keys in a registry are in lower case, and lower case is final. -/
theorem lookup_eq_none_of_lowercase_ne (h : lowercase key ≠ key) : r.lookup key = none := by
  cases hlookup : r.lookup key with
  | none => rfl
  | some p =>
    -- what is found stands under a text in lower case, which the key was not
    obtain rfl := lowercase_key_of_lookup hlookup
    exact absurd (Text.lowercase_lowercase p.key) h

theorem isMapOf_of_build (h : build ps = .ok r) : r.IsMapOf ps where
  size_eq := by rw [size, Mapping.size, entries_of_build h, List.length_map]
  keys_eq := keys_of_build h
  lookup_eq_some_iff := fun _ _ ↦ lookup_eq_some_iff_of_build h
  fetch_eq_ok_iff := fun _ _ ↦ fetch_eq_ok_iff
  fetch_eq_error_iff := fun _ _ ↦ fetch_eq_error_iff
  contains_iff := fun _ ↦ contains_iff
  lookup_eq_none := fun _ hkey ↦ lookup_eq_none_of_lowercase_ne hkey
  lookup_lowercase_eq_some_iff := fun key p ↦ by
    rw [lookup_eq_some_iff_of_build h, eq_comm (a := lowercase p.key)]

/-! ## The order of the properties -/

theorem exists_build_congr_of_perm (hperm : qs.Perm ps) :
    (∃ s, build qs = .ok s) ↔ ∃ r, build ps = .ok r := by
  rw [exists_build_iff, exists_build_iff]
  exact (hperm.map _).nodup_iff

theorem lookup_eq_of_perm (hperm : qs.Perm ps) (hr : build ps = .ok r) (hs : build qs = .ok s)
    (key : String) : s.lookup key = r.lookup key := by
  refine Option.ext fun p ↦ ?_
  rw [lookup_eq_some_iff_of_build hs, lookup_eq_some_iff_of_build hr, hperm.mem_iff]

theorem fetch_eq_of_lookup_eq (h : s.lookup key = r.lookup key) : s.fetch key = r.fetch key := by
  unfold lookup at h
  rw [fetch, fetch, h]

/-- **A registry is the map of its properties that ignores case.** It cannot be built exactly if two
keys agree in lower case, and then the first property that repeats an earlier key is named.
Otherwise it holds all the properties in their order, each found under its own key in lower case and
under no other text. The order of the properties decides neither whether there is a registry nor
what is found in it. -/
theorem build_ignoring_case (ps : List Property) :
    ((∃ e, build ps = .error e) ↔
        ∃ (i j : Nat) (hi : i < ps.length) (hj : j < ps.length),
          i < j ∧ lowercase ps[i].key = lowercase ps[j].key) ∧
      (∀ e, build ps = .error e ↔ ∃ p, IsFirstRepeat ps p ∧ e = ⟨p.key⟩) ∧
      (∀ r, build ps = .ok r → r.IsMapOf ps) ∧
      ∀ qs : List Property, qs.Perm ps →
        ((∃ s, build qs = .ok s) ↔ ∃ r, build ps = .ok r) ∧
          ∀ r s, build ps = .ok r → build qs = .ok s → ∀ key,
            s.lookup key = r.lookup key ∧ s.fetch key = r.fetch key ∧
              s.contains key = r.contains key := by
  refine ⟨exists_build_eq_error_iff, fun e ↦ build_eq_error_iff, fun r hr ↦ isMapOf_of_build hr,
    fun qs hperm ↦ ⟨exists_build_congr_of_perm hperm, fun r s hr hs key ↦ ?_⟩⟩
  have hlookup := lookup_eq_of_perm hperm hr hs key
  have hfetch := fetch_eq_of_lookup_eq hlookup
  exact ⟨hlookup, hfetch, by rw [contains, contains, hfetch]⟩

/-- The first key has a Kelvin sign in it, the second gets longer in lower case, and the third ends
in a final sigma. -/
theorem build_ignoring_case_for_kelvin_sign :
    ∃ (named : String → Property) (r s : Registry),
      named = (fun key ↦ { Catalog.checkpointInterval with key }) ∧
      build (["delta.\u212aey", "\u0130D", "ΟΔΟΣ"].map named) = .ok r ∧
      build (["ΟΔΟΣ", "delta.\u212aey", "\u0130D"].map named) = .ok s ∧
      r.keys = ["delta.key", "i\u0307d", "οδος"] ∧
      r.fetch "delta.key" = .ok (named "delta.\u212aey") ∧ r.contains "delta.Key" = false ∧
      s.lookup "delta.key" = some (named "delta.\u212aey") ∧
      build (["delta.\u212aey", "\u0130D", "DELTA.KEY", "ΟΔΟΣ"].map named)
        = .error ⟨"DELTA.KEY"⟩ := by
  generalize hnamed : (fun key ↦ { Catalog.checkpointInterval with key }) = named
  have hkelvin : lowercase (named "delta.\u212aey").key = "delta.key" := by
    rw [← hnamed]
    decide +kernel
  have hlower : (["delta.\u212aey", "\u0130D", "ΟΔΟΣ"].map named).map (fun p ↦ lowercase p.key)
      = ["delta.key", "i\u0307d", "οδος"] := by
    rw [← hnamed]
    decide +kernel
  have hperm : (["ΟΔΟΣ", "delta.\u212aey", "\u0130D"].map named).Perm
      (["delta.\u212aey", "\u0130D", "ΟΔΟΣ"].map named) :=
    List.Perm.map named (by decide)
  obtain ⟨-, -, hmap, hsame⟩ :=
    build_ignoring_case (["delta.\u212aey", "\u0130D", "ΟΔΟΣ"].map named)
  obtain ⟨r, hr⟩ : ∃ r, build (["delta.\u212aey", "\u0130D", "ΟΔΟΣ"].map named) = .ok r := by
    rw [exists_build_iff, hlower]
    decide
  obtain ⟨s, hs⟩ := (hsame _ hperm).1.mpr ⟨r, hr⟩
  have hlookup : r.lookup "delta.key" = some (named "delta.\u212aey") :=
    ((hmap r hr).lookup_eq_some_iff _ _).mpr ⟨List.mem_cons_self, hkelvin⟩
  refine ⟨named, r, s, rfl, hr, hs, ?_, ?_, ?_, ?_, ?_⟩
  · exact (hmap r hr).keys_eq.trans hlower
  · exact ((hmap r hr).fetch_eq_ok_iff _ _).mpr hlookup
  · have hnone := (hmap r hr).lookup_eq_none "delta.Key" (by decide +kernel)
    rw [Bool.eq_false_iff, ne_eq, (hmap r hr).contains_iff, hnone]
    simp
  · exact ((hsame _ hperm).2 r s hr hs "delta.key").1.trans hlookup
  · refine ((build_ignoring_case _).2.1 _).mpr ⟨named "DELTA.KEY",
      ⟨["delta.\u212aey", "\u0130D"].map named, [named "ΟΔΟΣ"], rfl, ?_, ?_⟩, ?_⟩
    · rw [← hnamed]
      decide +kernel
    · refine ⟨named "delta.\u212aey", List.mem_cons_self, hkelvin.trans ?_⟩
      rw [← hnamed]
      decide +kernel
    · rw [← hnamed]

end TableProperties.Registry
