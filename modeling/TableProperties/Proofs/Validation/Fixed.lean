import TableProperties.Proofs.History
import TableProperties.Proofs.Validation.Refusal

/-!
# Batches that are stored as they are

Validation brings the keys of a batch into normal form: those of properties become canonical keys,
all others are put into lower case. Both forms are final. A canonical key finds the property that it
was taken from, because the registry holds the property under the lower case form of just this key,
and lower case is final even for the characters whose lower case form has another length or depends
on their neighbours. Nor can keys in normal form run into each other, since no two of them differ in
case only. So the batches that are stored as they are, in their order, are the accepted ones in
normal form, and whatever is stored is one of them.

## Main statements

* `InNormalForm.normalKey_eq`: keys in normal form are their own normal keys.
* `validate_eq_self_iff`: which batches are stored as they are.
* `validate_idempotent`: what is stored is one of them.
-/

namespace TableProperties

open Text (lowercase)

variable {ps : List Property} {r : Registry} {c batch stored : Configuration} {key : String}

/-- A key in normal form is its own normal key. -/
theorem InNormalForm.normalKey_eq (hr : Registry.build ps = .ok r) (hc : InNormalForm ps c)
    (hkey : key ∈ c.keys) : r.normalKey key = key := by
  rcases hc key hkey with ⟨hreserved, p, hp, rfl⟩ | ⟨hlower, hfree⟩
  · have hlookup := (Registry.lookup_eq_some_iff_of_build hr).mpr ⟨hp, rfl⟩
    exact Registry.normalKey_of_lookup hreserved hlookup
  · rw [← hlower] at hfree
    rw [Registry.normalKey_of_not_isReserved hfree, hlower]

/-- What is stored is in normal form. -/
theorem inNormalForm_of_validate (hr : Registry.build ps = .ok r)
    (h : r.validate batch = .ok stored) : InNormalForm ps stored := by
  have hempty : InNormalForm ps .empty := by
    intro key hkey
    exact absurd hkey List.not_mem_nil
  have hmerged := hempty.merge hr h
  rwa [Mapping.empty_merge] at hmerged

/-- The batches that are stored as they are: those in normal form none of whose entries is
refused. -/
theorem validate_eq_self_iff (hr : Registry.build ps = .ok r) :
    r.validate stored = .ok stored ↔
      InNormalForm ps stored ∧ ∀ entry ∈ stored.entries, ∀ e, ¬ r.Refuses entry e := by
  constructor
  · intro h
    exact ⟨inNormalForm_of_validate hr h, (Registry.validate_eq_ok_iff_keys.mp h).1⟩
  · rintro ⟨hnormal, haccepted⟩
    refine Registry.validate_eq_ok_iff.mpr ⟨fun entry hentry ↦ ?_, ?_⟩
    · exact Registry.refusal?_eq_none_iff_forall.mpr (haccepted entry hentry)
    · -- every entry goes to the key that it has, and no key occurs twice
      have hkeys : stored.entries.map (fun e ↦ (r.normalKey e.1, e.2)) = stored.entries.map id := by
        refine List.map_congr_left fun e he ↦ ?_
        rw [hnormal.normalKey_eq hr (Mapping.mem_keys_iff.mpr ⟨e.2, he⟩)]
        rfl
      rw [hkeys, List.map_id, Mapping.ofList_entries]

/-- **Validation is idempotent.** With any registry that can be built, validating what a batch
stores gives it back, with the same entries in the same order, and no two of its keys differ in case
only. The batches that are stored as they are, are those in normal form that are accepted. -/
theorem validate_idempotent (hr : Registry.build ps = .ok r) :
    (∀ batch stored, r.validate batch = .ok stored →
        r.validate stored = .ok stored ∧ (stored.keys.map lowercase).Nodup) ∧
      ∀ stored, r.validate stored = .ok stored ↔
        InNormalForm ps stored ∧ ∀ entry ∈ stored.entries, ∀ e, ¬ r.Refuses entry e := by
  refine ⟨fun batch stored h ↦ ⟨?_, ?_⟩, fun stored ↦ validate_eq_self_iff hr⟩
  · exact Registry.validate_of_validate h
  · exact (inNormalForm_of_validate hr h).nodup_lowercase_keys hr

/-- The canonical key has a Kelvin sign in it, and the other keys get longer and end in a final
sigma. -/
theorem validate_idempotent_for_kelvin_sign :
    ∃ r, Registry.build [{ Catalog.checkpointInterval with key := "delta.\u212aey" }] = .ok r ∧
      r.validate (.ofList [("DELTA.KEY", some "5"), ("\u0130D", some "a"), ("ΟΔΟΣ", none)])
        = .ok (.ofList [("delta.\u212aey", some "5"), ("i\u0307d", some "a"), ("οδος", none)]) ∧
      r.validate (.ofList [("delta.\u212aey", some "5"), ("i\u0307d", some "a"), ("οδος", none)])
        = .ok (.ofList [("delta.\u212aey", some "5"), ("i\u0307d", some "a"), ("οδος", none)]) := by
  generalize hps : [{ Catalog.checkpointInterval with key := "delta.\u212aey" }] = ps
  have hnodup : (ps.map fun p ↦ lowercase p.key).Nodup := by
    rw [← hps]
    exact List.nodup_singleton _
  obtain ⟨r, hr⟩ := Registry.exists_build_iff.mpr hnodup
  have hstored : ((Registry.build ps).toOption.getD .empty).validate
      (.ofList [("DELTA.KEY", some "5"), ("\u0130D", some "a"), ("ΟΔΟΣ", none)])
        = .ok (.ofList [("delta.\u212aey", some "5"), ("i\u0307d", some "a"), ("οδος", none)]) := by
    rw [← hps]
    decide +kernel
  rw [hr] at hstored
  exact ⟨r, hr, hstored, ((validate_idempotent hr).1 _ _ hstored).1⟩

end TableProperties
