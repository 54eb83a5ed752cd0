import TableProperties.Metadata
import TableProperties.Proofs.Except
import TableProperties.Proofs.Mapping.Overlay
import TableProperties.Proofs.Validation

/-!
# Batches that follow each other

Two batches without a key in common can be validated and stored as one. The first refusal of the
long batch is that of the first batch, or else that of the second one; and if nothing is refused,
what is stored of the long batch is what is stored of the second laid over what is stored of the
first, because both are runs of insertions under normal keys. So committing the long batch and
committing the two batches one after the other is the same, in errors, values and order, and also
where the batches spell one key differently.

If the batches have no *normal* key in common either, nothing that one of them stores hides what the
other stores, and the order in which they are committed does not matter.

## Main statements

* `Registry.validate_merge`: the outcome of the long batch.
* `Metadata.commit_merge`: committing it, and committing the batches in the other order.
-/

namespace TableProperties

open Text (lowercase)

namespace Registry

variable {r : Registry} {p q s t : Configuration}

/-! ## Validation -/

theorem findSome?_refusal?_merge (hdisjoint : ∀ key ∈ p.keys, key ∉ q.keys) :
    (p.merge q).entries.findSome? r.refusal?
      = (p.entries.findSome? r.refusal?).or (q.entries.findSome? r.refusal?) := by
  rw [Mapping.entries_merge_of_disjoint hdisjoint, List.findSome?_append]

/-- The outcome of a batch that is put together from two: the first refusal in the first one or
else in the second one, or what is stored of the second laid over what is stored of the first. -/
theorem validate_merge (hdisjoint : ∀ key ∈ p.keys, key ∉ q.keys) :
    r.validate (p.merge q) = (r.validate p).bind fun s ↦ (r.validate q).map s.merge := by
  rw [validate_eq, validate_eq, validate_eq, findSome?_refusal?_merge hdisjoint]
  cases p.entries.findSome? r.refusal? with
  | some e => rfl
  | none =>
    cases q.entries.findSome? r.refusal? with
    | some e => rfl
    | none =>
      -- the insertions of the second batch go on where those of the first one end
      refine congrArg Except.ok ?_
      rw [Mapping.entries_merge_of_disjoint hdisjoint, List.map_append, Mapping.ofList,
        Mapping.insertMany_append]
      exact (Mapping.merge_ofList _ _).symm

theorem validate_merge_eq_ok_iff (hdisjoint : ∀ key ∈ p.keys, key ∉ q.keys) :
    r.validate (p.merge q) = .ok s ↔
      ∃ t u, r.validate p = .ok t ∧ r.validate q = .ok u ∧ s = t.merge u := by
  simp only [validate_merge hdisjoint, Except.bind_eq_ok_iff, Except.map_eq_ok_iff]
  constructor
  · rintro ⟨t, ht, u, hu, rfl⟩
    exact ⟨t, u, ht, hu, rfl⟩
  · rintro ⟨t, u, ht, hu, rfl⟩
    exact ⟨t, ht, u, hu, rfl⟩

theorem validate_merge_eq_error_iff {e : PropertyError}
    (hdisjoint : ∀ key ∈ p.keys, key ∉ q.keys) :
    r.validate (p.merge q) = .error e ↔
      r.validate p = .error e ∨ (∃ s, r.validate p = .ok s) ∧ r.validate q = .error e := by
  simp only [validate_merge hdisjoint, Except.bind_eq_error_iff, Except.map_eq_error_iff,
    exists_and_right]

/-- Batches without a normal key in common store nothing under the same key. -/
theorem disjoint_keys_of_validate (hapart : ∀ a ∈ p.keys, ∀ b ∈ q.keys, r.normalKey a ≠ r.normalKey b)
    (hp : r.validate p = .ok s) (hq : r.validate q = .ok t) : ∀ key ∈ s.keys, key ∉ t.keys := by
  intro key hs ht
  obtain ⟨a, ha, rfl⟩ := (mem_keys_of_validate hp).mp hs
  obtain ⟨b, hb, heq⟩ := (mem_keys_of_validate hq).mp ht
  exact hapart a ha b hb heq.symm

end Registry

/-! ## Commits -/

namespace Metadata

variable {r : Registry} {m n : Metadata} {p q s t : Configuration}

/-- The metadata after a batch has been validated and laid over its configuration. -/
def commit (r : Registry) (m : Metadata) (batch : Configuration) : Except PropertyError Metadata :=
  (r.validate batch).map m.withNewConfiguration

/-- The metadata after two commits, of which the first that fails decides. -/
def commitBoth (r : Registry) (m : Metadata) (p q : Configuration) :
    Except PropertyError Metadata :=
  (m.commit r p).bind (·.commit r q)

@[simp] theorem configuration_withNewConfiguration (m : Metadata) (s : Configuration) :
    (m.withNewConfiguration s).configuration = m.configuration.merge s := rfl

theorem withNewConfiguration_merge (m : Metadata) (s t : Configuration) :
    m.withNewConfiguration (s.merge t) = (m.withNewConfiguration s).withNewConfiguration t := by
  rw [withNewConfiguration, withNewConfiguration, withNewConfiguration, Mapping.merge_assoc]

/-- Metadata is the same up to order if it has the same identity and agrees on every key. -/
theorem same_iff :
    m.Same n = true ↔ m.id = n.id ∧ ∀ key, m.configuration.get? key = n.configuration.get? key := by
  rw [Same, Bool.and_eq_true, beq_iff_eq, Mapping.same_iff]

/-- Without a key in common, the order of two overlays does not count. -/
theorem same_withNewConfiguration_merge_comm (m : Metadata) (h : ∀ key ∈ s.keys, key ∉ t.keys) :
    (m.withNewConfiguration (s.merge t)).Same (m.withNewConfiguration (t.merge s)) = true := by
  rw [same_iff]
  refine ⟨rfl, fun key ↦ ?_⟩
  rw [configuration_withNewConfiguration, configuration_withNewConfiguration,
    Mapping.get?_merge _ (s.merge t), Mapping.get?_merge _ (t.merge s), Mapping.get?_merge_comm h]

theorem commitBoth_eq_ok_iff :
    m.commitBoth r p q = .ok n ↔
      ∃ s t, r.validate p = .ok s ∧ r.validate q = .ok t ∧
        n = m.withNewConfiguration (s.merge t) := by
  simp only [commitBoth, commit, Except.bind_eq_ok_iff, Except.map_eq_ok_iff]
  constructor
  · rintro ⟨_, ⟨s, hs, rfl⟩, t, ht, rfl⟩
    exact ⟨s, t, hs, ht, (withNewConfiguration_merge m s t).symm⟩
  · rintro ⟨s, t, hs, ht, rfl⟩
    exact ⟨_, ⟨s, hs, rfl⟩, t, ht, (withNewConfiguration_merge m s t).symm⟩

/-- A batch that is put together from two is committed like the two, one after the other. -/
theorem commit_merge_eq_commitBoth (m : Metadata) (hdisjoint : ∀ key ∈ p.keys, key ∉ q.keys) :
    m.commit r (p.merge q) = m.commitBoth r p q := by
  rw [commit, Registry.validate_merge hdisjoint, commitBoth, commit]
  cases r.validate p with
  | error e => rfl
  | ok s =>
    change ((r.validate q).map s.merge).map m.withNewConfiguration
      = (r.validate q).map (m.withNewConfiguration s).withNewConfiguration
    cases r.validate q with
    | error e => rfl
    | ok t => exact congrArg Except.ok (withNewConfiguration_merge m s t)

theorem exists_commitBoth_comm :
    (∃ n, m.commitBoth r p q = .ok n) ↔ ∃ n, m.commitBoth r q p = .ok n := by
  simp only [commitBoth_eq_ok_iff]
  constructor
  · rintro ⟨-, s, t, hs, ht, -⟩
    exact ⟨_, t, s, ht, hs, rfl⟩
  · rintro ⟨-, s, t, hs, ht, -⟩
    exact ⟨_, t, s, ht, hs, rfl⟩

/-- **Batches compose.** Let two batches have no key in common. The batch with the entries of both is
accepted exactly if both are; its error is that of the first one, or else that of the second one;
and committing it is committing the two, one after the other, in errors, values and order. If the
batches have no normal key in common either, they can be committed in the other order exactly if
they can in this one, and the results are equal up to the order of their entries. -/
theorem commit_merge (r : Registry) (m : Metadata) (hdisjoint : ∀ key ∈ p.keys, key ∉ q.keys) :
    (p.merge q).entries = p.entries ++ q.entries ∧
      ((∃ s, r.validate (p.merge q) = .ok s) ↔
        (∃ s, r.validate p = .ok s) ∧ ∃ s, r.validate q = .ok s) ∧
      (∀ e, r.validate (p.merge q) = .error e ↔
        r.validate p = .error e ∨ (∃ s, r.validate p = .ok s) ∧ r.validate q = .error e) ∧
      m.commit r (p.merge q) = m.commitBoth r p q ∧
      ((∀ a ∈ p.keys, ∀ b ∈ q.keys, r.normalKey a ≠ r.normalKey b) →
        ((∃ n, m.commitBoth r p q = .ok n) ↔ ∃ n, m.commitBoth r q p = .ok n) ∧
          ∀ n n', m.commitBoth r p q = .ok n → m.commitBoth r q p = .ok n' →
            n.Same n' = true) := by
  refine ⟨Mapping.entries_merge_of_disjoint hdisjoint, ?_,
    fun e ↦ Registry.validate_merge_eq_error_iff hdisjoint, commit_merge_eq_commitBoth m hdisjoint,
    fun hapart ↦ ⟨exists_commitBoth_comm, ?_⟩⟩
  · simp only [Registry.validate_merge_eq_ok_iff hdisjoint]
    constructor
    · rintro ⟨-, s, t, hs, ht, -⟩
      exact ⟨⟨s, hs⟩, t, ht⟩
    · rintro ⟨⟨s, hs⟩, t, ht⟩
      exact ⟨_, s, t, hs, ht, rfl⟩
  · intro n n' hn hn'
    obtain ⟨s, t, hs, ht, rfl⟩ := commitBoth_eq_ok_iff.mp hn
    obtain ⟨t', s', ht', hs', rfl⟩ := commitBoth_eq_ok_iff.mp hn'
    obtain rfl := Except.ok.inj (hs.symm.trans hs')
    obtain rfl := Except.ok.inj (ht.symm.trans ht')
    exact same_withNewConfiguration_merge_comm m (Registry.disjoint_keys_of_validate hapart hs ht)

/-- A batch that spells a key in a second way replaces what the first one stored, and a batch with
another key can be committed before it or after it. -/
theorem commit_merge_of_checkpointInterval :
    let m : Metadata := ⟨"events", .empty⟩
    let p : Configuration := .ofList [("delta.checkpointInterval", some "5")]
    let q : Configuration := .ofList [("DELTA.CHECKPOINTINTERVAL", some "7")]
    let o : Configuration := .ofList [("Owner", some "a")]
    m.commit .builtin (p.merge q)
        = .ok ⟨"events", .ofList [("delta.checkpointInterval", some "7")]⟩ ∧
      ∃ n n', m.commit .builtin (q.merge o) = .ok n ∧ m.commitBoth .builtin o q = .ok n' ∧
        n.Same n' = true := by
  intro m p q o
  have hmem : Catalog.checkpointInterval ∈ Catalog.all := by simp [Catalog.all]
  have hkey : lowercase "DELTA.CHECKPOINTINTERVAL" = lowercase Catalog.checkpointInterval.key :=
    Catalog.lowercase_eq_lowercase_key hmem (by decide +kernel) (by decide +kernel)
  have hfive : Catalog.checkpointInterval.check (some "5") = .ok (.int 5) := by decide +kernel
  have hseven : Catalog.checkpointInterval.check (some "7") = .ok (.int 7) := by decide +kernel
  have howner : lowercase "Owner" = "owner" := by decide +kernel
  have hfree : isReserved (lowercase "Owner") = false := by rw [howner]; decide
  have hp := Registry.validate_ofList_singleton (Catalog.refusal?_eq_none hmem rfl rfl hfive)
  have hq := Registry.validate_ofList_singleton (Catalog.refusal?_eq_none hmem rfl hkey hseven)
  have hallowed : Registry.builtin.refusal? ("Owner", some "a") = none :=
    Registry.refusal?_eq_none_iff.mpr (.inl hfree)
  have ho := Registry.validate_ofList_singleton hallowed
  rw [(Catalog.normalKey_eq_key_iff hmem).mpr rfl] at hp
  rw [(Catalog.normalKey_eq_key_iff hmem).mpr hkey] at hq
  have hpq : ∀ key ∈ p.keys, key ∉ q.keys := by decide +kernel
  have hqo : ∀ key ∈ q.keys, key ∉ o.keys := by decide +kernel
  have hapart : ∀ a ∈ q.keys, ∀ b ∈ o.keys,
      Registry.builtin.normalKey a ≠ Registry.builtin.normalKey b := by
    intro a ha b hb
    obtain rfl := List.mem_singleton.mp ha
    obtain rfl := List.mem_singleton.mp hb
    rw [ne_eq, Registry.normalKey_eq_normalKey_iff]
    decide +kernel
  obtain ⟨-, -, -, hjoint, -⟩ := commit_merge .builtin m hpq
  obtain ⟨-, -, -, hjoint', hcomm⟩ := commit_merge .builtin m hqo
  obtain ⟨hiff, hsame⟩ := hcomm hapart
  obtain ⟨n, hn⟩ : ∃ n, m.commitBoth .builtin q o = .ok n :=
    ⟨_, commitBoth_eq_ok_iff.mpr ⟨_, _, hq, ho, rfl⟩⟩
  obtain ⟨n', hn'⟩ := hiff.mp ⟨n, hn⟩
  refine ⟨?_, n, n', hjoint'.trans hn, hn', hsame n n' hn hn'⟩
  rw [hjoint, commitBoth_eq_ok_iff]
  exact ⟨_, _, hp, hq, by decide +kernel⟩

end Metadata

end TableProperties
