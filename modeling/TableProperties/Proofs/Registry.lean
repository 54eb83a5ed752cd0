import Mathlib.Data.List.Induction
import TableProperties.Proofs.Except
import TableProperties.Proofs.Mapping
import TableProperties.Proofs.Property.Catalog

/-!
# The entries of a registry

Building a registry succeeds exactly when no two keys agree in lower case. Its entries are then the
properties in the order in which they are listed, each under its key in lower case, so a look-up
finds a property exactly under the lower case form of its own key.

## Main statements

* `exists_build_iff`, `entries_of_build`: when a registry is built, and from what.
* `lookup_eq_some_iff_of_build`: what a look-up finds.
* `fetch_eq_ok_iff`, `contains_iff`: fetching and membership go by look-ups.
* `build_all`: the registry of the built-in properties exists.
-/

namespace TableProperties.Registry

open Text (lowercase)

variable {r s : Registry} {p q : Property} {ps : List Property} {key : String}

/-! ## One registration -/

theorem add_eq_ok_iff : r.add p = .ok s ↔
    lowercase p.key ∉ r.keys ∧ s.mapping.entries = r.mapping.entries ++ [(lowercase p.key, p)] := by
  unfold add
  by_cases hmem : lowercase p.key ∈ r.keys
  · simp [hmem, Mapping.contains_iff.mpr hmem]
  · have hcontains := Mapping.contains_eq_false_iff.mpr hmem
    simp only [hcontains, Bool.false_eq_true, if_false, Except.ok.injEq, hmem, not_false_eq_true,
      true_and]
    rw [← Mapping.putEntry_of_not_mem hmem]
    constructor
    · rintro rfl
      rfl
    · intro h
      exact ext (Mapping.ext h.symm)

theorem add_eq_error_iff {e : DuplicateKey} :
    r.add p = .error e ↔ lowercase p.key ∈ r.keys ∧ e = ⟨p.key⟩ := by
  unfold add
  by_cases hmem : lowercase p.key ∈ r.keys
  · simp [hmem, Mapping.contains_iff.mpr hmem, eq_comm]
  · simp [hmem, Mapping.contains_eq_false_iff.mpr hmem]

/-! ## Building -/

theorem entries_of_build (h : build ps = .ok r) :
    r.mapping.entries = ps.map fun p ↦ (lowercase p.key, p) := by
  induction ps using List.reverseRecOn generalizing r with
  | nil =>
    rw [build_nil, Except.ok.injEq] at h
    rw [← h]
    rfl
  | append_singleton ps p ih =>
    rw [build_append_singleton, Except.bind_eq_ok_iff] at h
    obtain ⟨s, hs, hadd⟩ := h
    obtain ⟨-, hentries⟩ := add_eq_ok_iff.mp hadd
    rw [hentries, ih hs, List.map_append]
    rfl

theorem keys_of_build (h : build ps = .ok r) : r.keys = ps.map fun p ↦ lowercase p.key := by
  rw [keys, Mapping.keys, entries_of_build h, List.map_map]
  rfl

theorem exists_build_iff : (∃ r, build ps = .ok r) ↔ (ps.map fun p ↦ lowercase p.key).Nodup := by
  constructor
  · rintro ⟨r, hr⟩
    rw [← keys_of_build hr]
    exact r.mapping.nodup_keys
  · intro h
    induction ps using List.reverseRecOn with
    | nil => exact ⟨empty, build_nil⟩
    | append_singleton ps p ih =>
      rw [List.map_append, List.nodup_append] at h
      obtain ⟨hps, -, hapart⟩ := h
      obtain ⟨s, hs⟩ := ih hps
      -- the keys so far are those of the properties in front
      have hfresh : lowercase p.key ∉ s.keys := by
        rw [keys_of_build hs]
        exact fun hmem ↦ hapart _ hmem _ (List.mem_singleton.mpr rfl) rfl
      cases hadd : s.add p with
      | error e => exact absurd (add_eq_error_iff.mp hadd).1 hfresh
      | ok r =>
        refine ⟨r, ?_⟩
        rw [build_append_singleton, Except.bind_eq_ok_iff]
        exact ⟨s, hs, hadd⟩

/-! ## Looking up -/

theorem lowercase_key_of_lookup (h : r.lookup key = some p) : lowercase p.key = key :=
  (r.key_eq _ (Mapping.get?_eq_some_iff.mp h)).symm

theorem lookup_eq_some_iff_of_build (h : build ps = .ok r) :
    r.lookup key = some p ↔ p ∈ ps ∧ lowercase p.key = key := by
  rw [lookup, Mapping.get?_eq_some_iff, entries_of_build h, List.mem_map]
  constructor
  · rintro ⟨q, hq, heq⟩
    rw [Prod.mk.injEq] at heq
    obtain ⟨rfl, rfl⟩ := heq
    exact ⟨hq, rfl⟩
  · rintro ⟨hp, rfl⟩
    exact ⟨p, hp, rfl⟩

theorem fetch_eq_ok_iff : r.fetch key = .ok p ↔ r.lookup key = some p := by
  unfold fetch lookup
  cases r.mapping.get? key with
  | none => simp
  | some q => simp

theorem fetch_eq_error_iff {e : MissingKey} :
    r.fetch key = .error e ↔ r.lookup key = none ∧ e = ⟨key⟩ := by
  unfold fetch lookup
  cases r.mapping.get? key with
  | none => simp [eq_comm]
  | some q => simp

theorem contains_iff : r.contains key = true ↔ ∃ p, r.lookup key = some p := by
  simp only [← fetch_eq_ok_iff]
  unfold contains
  cases r.fetch key with
  | error e => simp [Except.toBool]
  | ok q => simp [Except.toBool]

/-- Two properties of a registry whose keys agree in lower case are the same. -/
theorem eq_of_lowercase_key_eq (h : build ps = .ok r) (hp : p ∈ ps) (hq : q ∈ ps)
    (hkey : lowercase p.key = lowercase q.key) : p = q := by
  have hlookup := (lookup_eq_some_iff_of_build h).mpr ⟨hp, hkey⟩
  rw [(lookup_eq_some_iff_of_build h).mpr ⟨hq, rfl⟩, Option.some.injEq] at hlookup
  exact hlookup.symm

/-! ## The built-in properties -/

theorem build_all : build Catalog.all = .ok builtin := by
  obtain ⟨r, hr⟩ := exists_build_iff.mpr Catalog.nodup_lowercase_key
  rw [builtin, hr]
  rfl

theorem lookup_builtin_eq_some_iff :
    builtin.lookup key = some p ↔ p ∈ Catalog.all ∧ lowercase p.key = key :=
  lookup_eq_some_iff_of_build build_all

/-- The registry has all built-in properties, and each is fetched by its key in lower case. -/
theorem fetch_builtin_eq_ok_iff :
    builtin.fetch key = .ok p ↔ p ∈ Catalog.all ∧ lowercase p.key = key :=
  fetch_eq_ok_iff.trans lookup_builtin_eq_some_iff

theorem contains_builtin_iff :
    builtin.contains key = true ↔ ∃ p ∈ Catalog.all, lowercase p.key = key := by
  simp only [contains_iff, lookup_builtin_eq_some_iff]

end TableProperties.Registry
