import Mathlib.Data.List.Nodup
import TableProperties.History
import TableProperties.Proofs.Except
import TableProperties.Proofs.Validation
import TableProperties.Session

/-!
# Histories of validated changes

A table goes through versions by committing batches and by going back to earlier versions. What
holds of the first version and survives the overlay of a validated batch holds of every version,
because a refused batch and a version that does not exist change nothing; this one induction carries
both results of this file.

The first result is about reading: if the first version has a value for every built-in property,
then so have all later ones, and a commit changes exactly the values that its batch names. The
second is about the reserved namespace, for any registry: no commit stores anything under a reserved
key but an accepted value of an editable property, under its canonical key.

## Main statements

* `all_afterAll`: what holds of every version.
* `exists_read_afterAll`: every built-in property can always be read, and commits are seen at once.
* `reserved_protected`: reserved keys change by accepted commits only.
-/

namespace TableProperties

open Text (lowercase)

/-- A change of the metadata of a table. -/
inductive Change where
  /-- A batch is validated and laid over the current version. -/
  | commit (batch : Configuration)
  /-- An earlier version is made current. -/
  | rollback (version : Nat)

namespace History

/-- The history after a change. A refused batch and a version that does not exist change nothing. -/
def after (r : Registry) (h : History) : Change → History
  | .commit batch =>
    match h.commit r batch with
    | .ok next => next
    | .error _ => h
  | .rollback version => (h.rollback? version).getD h

/-- The history after some changes, one after the other. -/
def afterAll (r : Registry) (h : History) (changes : List Change) : History :=
  changes.foldl (after r) h

variable {r : Registry} {h next : History} {batch : Configuration}

@[simp] theorem afterAll_nil (r : Registry) (h : History) : h.afterAll r [] = h := rfl

@[simp] theorem afterAll_cons (r : Registry) (h : History) (c : Change) (changes : List Change) :
    h.afterAll r (c :: changes) = (h.after r c).afterAll r changes := rfl

/-- A commit succeeds if the batch is accepted, and then lays what is stored over the current
version. -/
theorem commit_eq_ok_iff :
    h.commit r batch = .ok next ↔ ∃ stored, r.validate batch = .ok stored ∧ next = h.merge stored := by
  rw [commit, Except.map_eq_ok_iff]
  simp [eq_comm]

theorem rollback?_eq_some_iff {version : Nat} :
    h.rollback? version = some next ↔ ∃ m, h.versions[version]? = some m ∧
      next = { h with current := m } := by
  rw [rollback?, Option.map_eq_some_iff]
  simp [eq_comm]

/-! ## What holds of every version -/

/-- A condition holds of every version, the current one included. -/
structure All (P : Metadata → Prop) (h : History) : Prop where
  versions : ∀ m ∈ h.versions, P m
  current : P h.current

variable {P : Metadata → Prop}

theorem All.imp {Q : Metadata → Prop} (hall : h.All P) (himp : ∀ m, P m → Q m) : h.All Q where
  versions := fun m hm ↦ himp m (hall.versions m hm)
  current := himp _ hall.current

theorem all_start {m : Metadata} (hm : P m) : (start m).All P where
  versions := by
    intro v hv
    exact List.mem_singleton.mp hv ▸ hm
  current := hm

theorem all_merge {stored : Configuration} (hall : h.All P)
    (hm : P (h.current.withNewConfiguration stored)) : (h.merge stored).All P where
  versions := by
    intro v hv
    rcases List.mem_append.mp hv with hv | hv
    · exact hall.versions v hv
    · exact List.mem_singleton.mp hv ▸ hm
  current := hm

theorem all_after (hall : h.All P)
    (hstep : ∀ m batch stored, P m → r.validate batch = .ok stored →
      P (m.withNewConfiguration stored)) (c : Change) : (h.after r c).All P := by
  cases c with
  | commit batch =>
    rw [after]
    cases hcommit : h.commit r batch with
    | error e => exact hall
    | ok next =>
      obtain ⟨stored, hstored, rfl⟩ := commit_eq_ok_iff.mp hcommit
      exact all_merge hall (hstep _ _ _ hall.current hstored)
  | rollback version =>
    rw [after]
    cases hback : h.rollback? version with
    | none => exact hall
    | some next =>
      -- an earlier version has been one of the versions all along
      obtain ⟨m, hm, rfl⟩ := rollback?_eq_some_iff.mp hback
      exact ⟨hall.versions, hall.versions m (List.mem_of_getElem? hm)⟩

/-- What holds of the versions that are there and survives the overlay of every accepted batch holds
of all versions after any changes. -/
theorem all_afterAll (hall : h.All P)
    (hstep : ∀ m batch stored, P m → r.validate batch = .ok stored →
      P (m.withNewConfiguration stored)) (changes : List Change) :
    (h.afterAll r changes).All P := by
  induction changes generalizing h with
  | nil => exact hall
  | cons c changes ih => exact ih (all_after hall hstep c)

end History

/-! ## Reading after changes -/

section Reading

variable {p : Property} {c d batch stored : Configuration}

theorem Property.read_congr (h : c.get? p.key = d.get? p.key) : p.read c = p.read d := by
  rw [read, read, raw, raw, h]

theorem Property.read_of_get?_eq_some {raw : String} (h : c.get? p.key = some (some raw)) :
    p.read c = p.check (some raw) := by
  rw [read, Property.raw, h]
  rfl

/-- The value of the last entry of a batch whose key is a spelling of that of the property. -/
def Property.given? (p : Property) (batch : Configuration) : Option (Option String) :=
  lastValue? (fun key ↦ lowercase key == lowercase p.key) batch.entries

namespace Catalog

/-- Every built-in property has a value. -/
def Readable (c : Configuration) : Prop :=
  ∀ p ∈ all, ∃ v, p.read c = .ok v

/-- What an accepted batch stores for a built-in property is what it gives for any spelling of its
key. -/
theorem get?_key_of_validate (hp : p ∈ all) (h : Registry.builtin.validate batch = .ok stored) :
    stored.get? p.key = p.given? batch := by
  rw [Registry.get?_of_validate h, Property.given?]
  refine lastValue?_congr fun e _ ↦ ?_
  rw [Bool.eq_iff_iff, beq_iff_eq, beq_iff_eq]
  exact normalKey_eq_key_iff hp

theorem check_of_given?_eq_some {raw : Option String} (hp : p ∈ all)
    (h : Registry.builtin.validate batch = .ok stored) (hgiven : p.given? batch = some raw) :
    ∃ v, p.check raw = .ok v := by
  rw [← get?_key_of_validate hp h] at hgiven
  obtain ⟨q, v, hq, hkey, -, hcheck⟩ :=
    Registry.exists_property_of_get?_of_validate h (isReserved_lowercase_key hp) hgiven
  obtain rfl := eq_of_key_eq (Registry.lookup_builtin_eq_some_iff.mp hq).1 hp hkey
  exact ⟨v, hcheck⟩

/-- An accepted batch is seen at once: what it gives is read, and the rest reads as before. -/
theorem read_merge_of_validate (hp : p ∈ all) (h : Registry.builtin.validate batch = .ok stored)
    (c : Configuration) :
    match p.given? batch with
    | some raw => ∃ v, p.reader raw = .ok v ∧ p.read (c.merge stored) = .ok v ∧
        (raw = none → p.optional = true ∧ v = .absent)
    | none => p.read (c.merge stored) = p.read c := by
  have hget : (c.merge stored).get? p.key = (p.given? batch).or (c.get? p.key) := by
    rw [Mapping.get?_merge, get?_key_of_validate hp h]
  cases hgiven : p.given? batch with
  | none =>
    rw [hgiven, Option.none_or] at hget
    exact Property.read_congr hget
  | some raw =>
    rw [hgiven, Option.some_or] at hget
    obtain ⟨v, hcheck⟩ := check_of_given?_eq_some hp h hgiven
    have hreader := (Property.check_eq_ok_iff.mp hcheck).1
    refine ⟨v, hreader, ?_, ?_⟩
    · cases raw with
      | some raw => rw [Property.read_of_get?_eq_some hget, hcheck]
      | none =>
        -- an absent value hides the default
        obtain ⟨hoptional, rfl⟩ := optional_of_reader_none hp hreader
        simp [Property.read, Property.raw, hget, hoptional]
    · rintro rfl
      exact optional_of_reader_none hp hreader

theorem readable_empty : Readable .empty := fun _ hp ↦ exists_read_empty hp

theorem Readable.merge (hc : Readable c) (h : Registry.builtin.validate batch = .ok stored) :
    Readable (c.merge stored) := by
  intro p hp
  have hread := read_merge_of_validate hp h c
  cases hgiven : p.given? batch with
  | none =>
    rw [hgiven] at hread
    obtain ⟨v, hv⟩ := hc p hp
    exact ⟨v, hread.trans hv⟩
  | some raw =>
    rw [hgiven] at hread
    obtain ⟨v, -, hv, -⟩ := hread
    exact ⟨v, hv⟩

end Catalog

end Reading

/-- **Built-in properties can always be read, and commits are seen at once.** If the first version
has a value for every built-in property, then so has every later one; and after a commit a property
reads as what the last entry of the batch with a spelling of its key gives, or as before if there is
no such entry. -/
theorem History.exists_read_afterAll (m : Metadata) (hm : Catalog.Readable m.configuration)
    (changes : List Change) :
    ((start m).afterAll .builtin changes).All (fun v ↦ Catalog.Readable v.configuration) ∧
      ∀ batch next, ((start m).afterAll .builtin changes).commit .builtin batch = .ok next →
        ∀ p ∈ Catalog.all,
          match p.given? batch with
          | some raw => ∃ v, p.reader raw = .ok v ∧ p.read next.current.configuration = .ok v ∧
              (raw = none → p.optional = true ∧ v = .absent)
          | none => p.read next.current.configuration
              = p.read ((start m).afterAll .builtin changes).current.configuration := by
  constructor
  · exact all_afterAll (all_start hm) (fun v batch stored hv h ↦ hv.merge h) changes
  · intro batch next hcommit p hp
    obtain ⟨stored, hstored, rfl⟩ := commit_eq_ok_iff.mp hcommit
    exact Catalog.read_merge_of_validate hp hstored _

theorem History.read_checkpointInterval_after_commit :
    ∃ next,
      ((start ⟨"events", .empty⟩).afterAll .builtin
        [.commit (.ofList [("owner", some "a")]), .rollback 0, .rollback 9]).commit .builtin
          (.ofList [("DELTA.CheckpointInterval", some "5")]) = .ok next ∧
        Catalog.checkpointInterval.read next.current.configuration = .ok (.int 5) := by
  have hmem : Catalog.checkpointInterval ∈ Catalog.all := by simp [Catalog.all]
  have hkey : lowercase "DELTA.CheckpointInterval" = lowercase Catalog.checkpointInterval.key :=
    Catalog.lowercase_eq_lowercase_key hmem (by decide +kernel) (by decide +kernel)
  have hcheck : Catalog.checkpointInterval.check (some "5") = .ok (.int 5) := by decide +kernel
  generalize hbatch : Mapping.ofList [("DELTA.CheckpointInterval", some "5")] = batch
  have hentries : batch.entries = [("DELTA.CheckpointInterval", some "5")] := hbatch ▸ rfl
  have hvalid : ∃ stored, Registry.builtin.validate batch = .ok stored := by
    refine ⟨_, Registry.validate_eq_ok_iff.mpr ⟨?_, rfl⟩⟩
    intro entry hentry
    rw [hentries, List.mem_singleton] at hentry
    rw [hentry]
    exact Catalog.refusal?_eq_none hmem rfl hkey hcheck
  have hgiven : Catalog.checkpointInterval.given? batch = some (some "5") := by
    rw [Property.given?, hentries, lastValue?_singleton, if_pos (beq_iff_eq.mpr hkey)]
  obtain ⟨stored, hstored⟩ := hvalid
  have hcommit (h : History) : h.commit .builtin batch = .ok (h.merge stored) :=
    commit_eq_ok_iff.mpr ⟨stored, hstored, rfl⟩
  have hread := (exists_read_afterAll ⟨"events", .empty⟩ Catalog.readable_empty
    [.commit (.ofList [("owner", some "a")]), .rollback 0, .rollback 9]).2 _ _ (hcommit _) _ hmem
  refine ⟨_, hcommit _, ?_⟩
  rw [hgiven] at hread
  obtain ⟨v, hv, hread, -⟩ := hread
  rw [(Property.check_eq_ok_iff.mp hcheck).1, Except.ok.injEq] at hv
  rw [hv]
  exact hread

/-! ## Reserved keys after changes -/

section Reserved

variable {ps : List Property} {r : Registry} {p : Property} {c d batch stored : Configuration}
  {key : String}

/-- Under a reserved key, a configuration holds what another one holds, or an accepted value of an
editable property under its canonical key. -/
def ReservedKept (ps : List Property) (c d : Configuration) : Prop :=
  ∀ key, isReserved (lowercase key) = true →
    d.get? key = c.get? key ∨
      ∃ p ∈ ps, p.key = key ∧ p.editable = true ∧
        ∃ raw value, d.get? key = some raw ∧ p.reader raw = .ok value ∧ p.accepts value = true

/-- A configuration whose keys are canonical keys of the reserved namespace, and keys in lower case
outside of it. -/
def InNormalForm (ps : List Property) (c : Configuration) : Prop :=
  ∀ key ∈ c.keys,
    (isReserved (lowercase key) = true ∧ ∃ p ∈ ps, p.key = key) ∨
      (lowercase key = key ∧ isReserved key = false)

theorem ReservedKept.refl (c : Configuration) : ReservedKept ps c c := fun _ _ ↦ .inl rfl

theorem ReservedKept.merge (hr : Registry.build ps = .ok r) (hkept : ReservedKept ps c d)
    (h : r.validate batch = .ok stored) : ReservedKept ps c (d.merge stored) := by
  intro key hreserved
  rw [Mapping.get?_merge]
  cases hstored : stored.get? key with
  | none =>
    rw [Option.none_or]
    exact hkept key hreserved
  | some raw =>
    obtain ⟨p, v, hp, hkey, heditable, hcheck⟩ :=
      Registry.exists_property_of_get?_of_validate h hreserved hstored
    obtain ⟨hreader, haccepts⟩ := Property.check_eq_ok_iff.mp hcheck
    have hmem := ((Registry.lookup_eq_some_iff_of_build hr).mp hp).1
    exact .inr ⟨p, hmem, hkey, heditable, raw, v, Option.some_or, hreader, haccepts⟩

/-- Where changes are confined to editable properties, nothing happens to any spelling of the key of
another one. -/
theorem ReservedKept.get?_eq (hr : Registry.build ps = .ok r) (hkept : ReservedKept ps c d)
    (hp : p ∈ ps) (hfixed : p.editable = false) (hreserved : isReserved (lowercase p.key) = true)
    (hkey : lowercase key = lowercase p.key) : d.get? key = c.get? key := by
  rcases hkept key (hkey ▸ hreserved) with h | ⟨q, hq, rfl, heditable, -⟩
  · exact h
  · obtain rfl := Registry.eq_of_lowercase_key_eq hr hq hp hkey
    exact absurd heditable (by simp [hfixed])

theorem InNormalForm.merge (hr : Registry.build ps = .ok r) (hc : InNormalForm ps c)
    (h : r.validate batch = .ok stored) : InNormalForm ps (c.merge stored) := by
  intro key hkey
  rcases Mapping.mem_keys_merge.mp hkey with hkey | hkey
  · exact hc key hkey
  · obtain ⟨value, hvalue⟩ := Mapping.mem_keys_iff.mp hkey
    have hget := Mapping.get?_eq_some_iff.mpr hvalue
    by_cases hreserved : isReserved (lowercase key) = true
    · obtain ⟨p, -, hp, hkey, -, -⟩ := Registry.exists_property_of_get?_of_validate h hreserved hget
      exact .inl ⟨hreserved, p, ((Registry.lookup_eq_some_iff_of_build hr).mp hp).1, hkey⟩
    · rw [Bool.not_eq_true] at hreserved
      have hlower := Registry.lowercase_eq_self_of_get?_of_validate h hreserved hget
      exact .inr ⟨hlower, hlower ▸ hreserved⟩

/-- Keys in normal form differ even when case is ignored. -/
theorem InNormalForm.nodup_lowercase_keys (hr : Registry.build ps = .ok r)
    (hc : InNormalForm ps c) : (c.keys.map lowercase).Nodup := by
  refine c.nodup_keys.map_on fun key hkey other hother heq ↦ ?_
  rcases hc key hkey with ⟨hreserved, p, hp, rfl⟩ | ⟨hlower, hfree⟩
  · rcases hc other hother with ⟨-, q, hq, rfl⟩ | ⟨hlower, hfree⟩
    · rw [Registry.eq_of_lowercase_key_eq hr hp hq heq]
    · rw [heq, hlower, hfree] at hreserved
      exact absurd hreserved Bool.false_ne_true
  · rcases hc other hother with ⟨hreserved, -⟩ | ⟨hlower', -⟩
    · rw [← heq, hlower, hfree] at hreserved
      exact absurd hreserved Bool.false_ne_true
    · rw [← hlower, heq, hlower']

end Reserved

/-- **Reserved keys are protected.** Whatever is committed to a table, under a reserved key every
version holds what the first one holds, or an accepted value of an editable property under its
canonical key; the keys of other properties are out of reach in any spelling. Versions stay in
normal form, so that no two keys differ in case only. -/
theorem History.reserved_protected {ps : List Property} {r : Registry}
    (hr : Registry.build ps = .ok r) (m : Metadata) (changes : List Change) :
    ((start m).afterAll r changes).All fun v ↦
      ReservedKept ps m.configuration v.configuration ∧
        (∀ p ∈ ps, p.editable = false → isReserved (lowercase p.key) = true →
          ∀ key, lowercase key = lowercase p.key →
            v.configuration.get? key = m.configuration.get? key) ∧
        (InNormalForm ps m.configuration →
          InNormalForm ps v.configuration ∧ (v.configuration.keys.map lowercase).Nodup) := by
  have hkept : ((start m).afterAll r changes).All fun v ↦
      ReservedKept ps m.configuration v.configuration ∧
        (InNormalForm ps m.configuration → InNormalForm ps v.configuration) := by
    refine all_afterAll (all_start ⟨.refl _, id⟩) ?_ changes
    rintro v batch stored ⟨hkept, hnormal⟩ h
    exact ⟨hkept.merge hr h, fun hm ↦ (hnormal hm).merge hr h⟩
  refine hkept.imp fun v ⟨hkept, hnormal⟩ ↦ ⟨hkept, ?_, ?_⟩
  · intro p hp hfixed hreserved key hkey
    exact hkept.get?_eq hr hp hfixed hreserved hkey
  · intro hm
    exact ⟨hnormal hm, (hnormal hm).nodup_lowercase_keys hr⟩

theorem History.get?_columnMappingMaxId_afterAll :
    ((start ⟨"events", .ofList [("delta.columnMapping.maxColumnId", some "7")]⟩).afterAll .builtin
      [.commit (.ofList [("DELTA.COLUMNMAPPING.MAXCOLUMNID", some "8")]), .rollback 0,
        .commit (.ofList [("Owner", some "a")])]).All fun v ↦
      v.configuration.get? "delta.columnMapping.maxColumnId" = some (some "7") ∧
        (v.configuration.keys.map lowercase).Nodup := by
  have hmem : Catalog.columnMappingMaxId ∈ Catalog.all := by simp [Catalog.all]
  have hreserved := Catalog.isReserved_lowercase_key hmem
  refine (reserved_protected Registry.build_all _ _).imp fun v ⟨_, hfixed, hnormal⟩ ↦ ⟨?_, ?_⟩
  · refine (hfixed _ hmem rfl hreserved _ rfl).trans ?_
    decide +kernel
  · refine (hnormal ?_).2
    intro key hkey
    obtain rfl : key = Catalog.columnMappingMaxId.key := List.mem_singleton.mp hkey
    exact .inl ⟨hreserved, _, hmem, rfl⟩

/-! ## Sessions -/

/-- The step of a session that makes a change with the registry of a provider. -/
def Change.step (holder : Holder) : Change → Step
  | .commit batch => .commit (.provider holder) batch
  | .rollback version => .rollback version

theorem Session.history_step_change (s : Session) (holder : Holder) (c : Change) :
    (s.step (c.step holder)).session
      = { s with history := s.history.after (s.provider holder).registry c } := by
  cases c with
  | commit batch =>
    simp only [Change.step, Session.step, Session.registryOf, Session.commitTo, History.after]
    cases s.history.commit (s.provider holder).registry batch with
    | error e => rfl
    | ok next => rfl
  | rollback version =>
    simp only [Change.step, Session.step, History.after]
    cases s.history.rollback? version with
    | none => rfl
    | some next => rfl

/-- A session whose steps are changes of its table leads to the history after these changes. -/
theorem Session.history_run_changes (s : Session) (holder : Holder) (changes : List Change) :
    (s.run (changes.map (Change.step holder))).1.history
      = s.history.afterAll (s.provider holder).registry changes := by
  induction changes generalizing s with
  | nil => rfl
  | cons c changes ih =>
    have hrun := ih (s.step (c.step holder)).session
    rw [Session.history_step_change] at hrun
    rw [List.map_cons, Session.run, History.afterAll_cons, Session.history_step_change]
    cases holder with
    | shared => exact hrun
    | own => exact hrun

end TableProperties
