import Mathlib.Data.List.Nodup
import TableProperties.CommandLine.Run
import TableProperties.Proofs.Except
import TableProperties.Proofs.Validation

/-!
# Properties of a file and overrides

The overrides of a command line are laid over the properties of a file by the keys as they are
spelled, and validation joins the spellings of a key only afterwards, the last one in order giving
the value. An overlay keeps a key that is already there in its place. So the value of an override is
not always the one that is stored: another spelling in the file may stand behind it, and among the
overrides those whose spelling is new come last, whatever their order was on the command line.

The spelling that decides is the last one that only the overrides have, or else the last one of the
file. The override that was given last wins if this is its own spelling, and otherwise only if both
values happen to agree.

## Main statements

* `getLast?_spellings_merge`: which spelling decides.
* `override_wins_iff`: when the last override of a key wins.
* `override_wins_of_nodup`: it does if neither source spells a key in two ways.
-/

namespace TableProperties

open Text (lowercase)

/-- The keys of a mapping that are spellings of a key, in order. -/
def Mapping.spellings {α : Type u} (m : Mapping α) (key : String) : List String :=
  m.keys.filter fun other ↦ lowercase other == lowercase key

theorem Mapping.mem_spellings {α : Type u} {m : Mapping α} {key other : String} :
    other ∈ m.spellings key ↔ other ∈ m.keys ∧ lowercase other = lowercase key := by
  rw [spellings, List.mem_filter, beq_iff_eq]

theorem Mapping.exists_getLast?_spellings {α : Type u} {m : Mapping α} {key : String}
    (h : key ∈ m.keys) : ∃ last, (m.spellings key).getLast? = some last := by
  rw [← Option.ne_none_iff_exists', ne_eq, List.getLast?_eq_none_iff]
  exact List.ne_nil_of_mem (mem_spellings.mpr ⟨h, rfl⟩)

theorem Mapping.eq_of_mem_spellings {α : Type u} {m : Mapping α} {key a b : String}
    (hm : (m.keys.map lowercase).Nodup) (ha : a ∈ m.spellings key) (hb : b ∈ m.spellings key) :
    a = b := by
  obtain ⟨ha, hkeya⟩ := mem_spellings.mp ha
  obtain ⟨hb, hkeyb⟩ := mem_spellings.mp hb
  exact List.inj_on_of_nodup_map hm ha hb (hkeya.trans hkeyb.symm)

/-- The value of the last entry with a spelling of a key is that of its last spelling. -/
theorem Mapping.lastValue?_normalKey {α : Type u} (r : Registry) (m : Mapping α) (key : String) :
    lastValue? (fun other ↦ r.normalKey other == r.normalKey key) m.entries
      = (m.spellings key).getLast?.bind m.get? := by
  rw [lastValue?_entries_eq_bind, spellings]
  refine congrArg (Option.bind · m.get?) (congrArg List.getLast? (List.filter_congr ?_))
  intro other _
  rw [Bool.eq_iff_iff, beq_iff_eq, beq_iff_eq, Registry.normalKey_eq_normalKey_iff]

namespace CommandLine

variable {p : Provider} {file overrides : Mapping String} {text key : String}

/-! ## The spelling that decides -/

/-- The last spelling of a key that only the overrides have, or else the last one of the file. -/
def decidingSpelling? (file overrides : Mapping String) (key : String) : Option String :=
  ((overrides.spellings key).filter fun other ↦ !file.contains other).getLast?.or
    (file.spellings key).getLast?

theorem getLast?_spellings_merge (file overrides : Mapping String) (key : String) :
    ((file.merge overrides).spellings key).getLast? = decidingSpelling? file overrides key := by
  rw [Mapping.spellings, Mapping.keys_merge, List.filter_append, List.getLast?_append,
    List.filter_comm]
  rfl

/-- The deciding spelling is an override, or a key of the file that has all these overrides. -/
theorem mem_of_decidingSpelling?_eq_some {deciding : String}
    (h : decidingSpelling? file overrides key = some deciding) :
    deciding ∈ overrides.spellings key ∨
      deciding ∈ file.spellings key ∧ ∀ other ∈ overrides.spellings key, other ∈ file.keys := by
  rcases Option.or_eq_some_iff.mp h with h | ⟨hnone, h⟩
  · exact .inl (List.mem_of_mem_filter (List.mem_of_getLast? h))
  · refine .inr ⟨List.mem_of_getLast? h, fun other hother ↦ ?_⟩
    rw [List.getLast?_eq_none_iff, List.filter_eq_nil_iff] at hnone
    exact Mapping.contains_iff.mp (by simpa using hnone other hother)

/-! ## Validation of the overlay -/

theorem validate_eq_ok_iff : (validate p file overrides).2 = .ok text ↔
    ∃ stored, p.registry.validate (toConfiguration (file.merge overrides)) = .ok stored ∧
      configurationText stored = text := by
  exact Except.mapError_eq_ok_iff.trans Except.map_eq_ok_iff

/-- The value that is stored for a key is that of the deciding spelling. -/
theorem get?_normalKey_of_validate {r : Registry} {stored : Configuration}
    (h : r.validate (toConfiguration (file.merge overrides)) = .ok stored) (key : String) :
    stored.get? (r.normalKey key)
      = ((decidingSpelling? file overrides key).bind (file.merge overrides).get?).map some := by
  rw [Registry.get?_of_validate h, toConfiguration, Mapping.lastValue?_mapValues,
    Mapping.lastValue?_normalKey, getLast?_spellings_merge]

/-- What is stored under the normal form of a key is the value of the last override that has this
normal form. -/
def OverrideWins (r : Registry) (overrides : Mapping String) (stored : Configuration)
    (key : String) : Prop :=
  stored.get? (r.normalKey key)
    = (lastValue? (fun other ↦ r.normalKey other == r.normalKey key) overrides.entries).map some

/-- The deciding spelling of an overridden key, and the last spelling that the overrides have. -/
theorem exists_deciding_last {r : Registry} {stored : Configuration}
    (h : r.validate (toConfiguration (file.merge overrides)) = .ok stored)
    (hkey : key ∈ overrides.keys) :
    ∃ deciding last,
      decidingSpelling? file overrides key = some deciding ∧
        (overrides.spellings key).getLast? = some last ∧
        stored.get? (r.normalKey key) = ((file.merge overrides).get? deciding).map some ∧
        (OverrideWins r overrides stored key ↔
          (file.merge overrides).get? deciding = overrides.get? last) ∧
        (deciding = last → OverrideWins r overrides stored key) := by
  obtain ⟨deciding, hdeciding⟩ :=
    Mapping.exists_getLast?_spellings (Mapping.mem_keys_merge.mpr (.inr hkey))
  obtain ⟨last, hlast⟩ := Mapping.exists_getLast?_spellings hkey
  -- the batch knows the spellings of the overlay only, and their last one is the deciding one
  rw [getLast?_spellings_merge] at hdeciding
  have hvalue : stored.get? (r.normalKey key) = ((file.merge overrides).get? deciding).map some := by
    rw [get?_normalKey_of_validate h, hdeciding, Option.bind_some]
  have hiff : OverrideWins r overrides stored key ↔
      (file.merge overrides).get? deciding = overrides.get? last := by
    rw [OverrideWins, hvalue, Mapping.lastValue?_normalKey, hlast, Option.bind_some]
    exact Option.map_inj_right fun _ _ ↦ Option.some.inj
  refine ⟨deciding, last, hdeciding, hlast, hvalue, hiff, ?_⟩
  rintro rfl
  -- an override is found in the overlay
  have hmem := (Mapping.mem_spellings.mp (List.mem_of_getLast? hlast)).1
  obtain ⟨value, hvalue⟩ := Mapping.mem_keys_iff.mp hmem
  rw [hiff, Mapping.get?_merge, Mapping.get?_eq_some_iff.mpr hvalue, Option.some_or]

/-- With the built-in registry, a batch that gives one editable property only, in whatever
spellings, leaves its last value. -/
theorem validate_of_spellings {q : Property} {first second : String × String}
    (hp : p.overrides = []) (hq : q ∈ Catalog.all) (heditable : q.editable = true)
    (hentries : (file.merge overrides).entries = [first, second])
    (hfirst : lowercase first.1 = lowercase q.key ∧ ∃ v, q.check (some first.2) = .ok v)
    (hsecond : lowercase second.1 = lowercase q.key ∧ ∃ v, q.check (some second.2) = .ok v) :
    (validate p file overrides).2
      = .ok (configurationText (.ofList [(q.key, some first.2), (q.key, some second.2)])) := by
  have hbatch : (toConfiguration (file.merge overrides)).entries
      = [(first.1, some first.2), (second.1, some second.2)] := by
    exact congrArg (List.map fun e ↦ (e.1, some e.2)) hentries
  rw [validate_eq_ok_iff, Provider.registry_of_overrides_eq_nil hp]
  refine ⟨_, Registry.validate_eq_ok_iff.mpr ⟨?_, ?_⟩, rfl⟩
  · rw [hbatch, List.forall_mem_cons, List.forall_mem_singleton]
    obtain ⟨hkey, v, hcheck⟩ := hfirst
    obtain ⟨hkey', v', hcheck'⟩ := hsecond
    exact ⟨Catalog.refusal?_eq_none hq heditable hkey hcheck,
      Catalog.refusal?_eq_none hq heditable hkey' hcheck'⟩
  · rw [hbatch, List.map_cons, List.map_singleton, (Catalog.normalKey_eq_key_iff hq).mpr hfirst.1,
      (Catalog.normalKey_eq_key_iff hq).mpr hsecond.1]

/-! ## When overrides win -/

/-- **When the last override of a key wins.** After a successful validation, the value under the
normal form of an overridden key is that of the deciding spelling, and the last override has won
exactly if its value is the same. -/
theorem override_wins_iff (h : (validate p file overrides).2 = .ok text) :
    ∃ stored, p.registry.validate (toConfiguration (file.merge overrides)) = .ok stored ∧
      configurationText stored = text ∧
      ∀ key ∈ overrides.keys, ∃ deciding last,
        decidingSpelling? file overrides key = some deciding ∧
          (overrides.spellings key).getLast? = some last ∧
          stored.get? (p.registry.normalKey key)
            = ((file.merge overrides).get? deciding).map some ∧
          (OverrideWins p.registry overrides stored key ↔
            (file.merge overrides).get? deciding = overrides.get? last) ∧
          (deciding = last → OverrideWins p.registry overrides stored key) := by
  obtain ⟨stored, hstored, htext⟩ := validate_eq_ok_iff.mp h
  exact ⟨stored, hstored, htext, fun key hkey ↦ exists_deciding_last hstored hkey⟩

/-- An override in another spelling than that of the file is put behind it, and wins. -/
theorem override_wins_in_other_spelling :
    ∃ stored, configurationText stored = "\x7b\n    \"delta.checkpointInterval\": \"7\"\n\x7d\n" ∧
      OverrideWins Provider.fresh.registry (Overrides.ofWords ["--DELTA.CHECKPOINTINTERVAL=7"])
        stored "DELTA.CHECKPOINTINTERVAL" := by
  have hmem : Catalog.checkpointInterval ∈ Catalog.all := by simp [Catalog.all]
  have hkey : lowercase "DELTA.CHECKPOINTINTERVAL" = lowercase Catalog.checkpointInterval.key :=
    Catalog.lowercase_eq_lowercase_key hmem (by decide +kernel) (by decide +kernel)
  have hfive : Catalog.checkpointInterval.check (some "5") = .ok (.int 5) := by decide +kernel
  have hseven : Catalog.checkpointInterval.check (some "7") = .ok (.int 7) := by decide +kernel
  have hentries : ((Mapping.ofList [("delta.checkpointInterval", "5")]).merge
      (Overrides.ofWords ["--DELTA.CHECKPOINTINTERVAL=7"])).entries
        = [(Catalog.checkpointInterval.key, "5"), ("DELTA.CHECKPOINTINTERVAL", "7")] := by
    decide +kernel
  have hoverrides : (Overrides.ofWords ["--DELTA.CHECKPOINTINTERVAL=7"]).keys
      = ["DELTA.CHECKPOINTINTERVAL"] := by
    decide +kernel
  have hvalid := validate_of_spellings (p := .fresh) rfl hmem rfl hentries
    ⟨rfl, _, hfive⟩ ⟨hkey, _, hseven⟩
  obtain ⟨stored, -, htext, hstored⟩ := override_wins_iff hvalid
  rw [hoverrides, List.forall_mem_singleton] at hstored
  obtain ⟨deciding, last, hdeciding, hlast, -, -, hwins⟩ := hstored
  refine ⟨stored, htext.trans ?_, hwins ?_⟩
  · decide +kernel
  · have hlast := List.mem_of_getLast? hlast
    have hkeys := (Mapping.mem_spellings.mp hlast).1
    rcases mem_of_decidingSpelling?_eq_some hdeciding with hdeciding | ⟨-, hall⟩
    · have hdeciding := (Mapping.mem_spellings.mp hdeciding).1
      rw [hoverrides, List.mem_singleton] at hkeys hdeciding
      rw [hkeys, hdeciding]
    · rw [hoverrides, List.mem_singleton] at hkeys
      exact absurd (hall _ hlast) (by rw [hkeys]; decide +kernel)

/-- An override keeps the place of the key in the file, so that another spelling behind it wins. -/
theorem file_wins_in_second_spelling :
    (validate .fresh
        (.ofList [("delta.checkpointInterval", "5"), ("DELTA.CHECKPOINTINTERVAL", "6")])
        (Overrides.ofWords ["--delta.checkpointInterval=7"])).2
      = .ok "\x7b\n    \"delta.checkpointInterval\": \"6\"\n\x7d\n" := by
  have hmem : Catalog.checkpointInterval ∈ Catalog.all := by simp [Catalog.all]
  have hkey : lowercase "DELTA.CHECKPOINTINTERVAL" = lowercase Catalog.checkpointInterval.key :=
    Catalog.lowercase_eq_lowercase_key hmem (by decide +kernel) (by decide +kernel)
  have hsix : Catalog.checkpointInterval.check (some "6") = .ok (.int 6) := by decide +kernel
  have hseven : Catalog.checkpointInterval.check (some "7") = .ok (.int 7) := by decide +kernel
  have hentries : ((Mapping.ofList
      [("delta.checkpointInterval", "5"), ("DELTA.CHECKPOINTINTERVAL", "6")]).merge
        (Overrides.ofWords ["--delta.checkpointInterval=7"])).entries
          = [(Catalog.checkpointInterval.key, "7"), ("DELTA.CHECKPOINTINTERVAL", "6")] := by
    decide +kernel
  rw [validate_of_spellings rfl hmem rfl hentries ⟨rfl, _, hseven⟩ ⟨hkey, _, hsix⟩]
  refine congrArg Except.ok ?_
  decide +kernel

/-- If neither the file nor the overrides spell a key in two ways, every override wins. -/
theorem override_wins_of_nodup (hfile : (file.keys.map lowercase).Nodup)
    (hoverrides : (overrides.keys.map lowercase).Nodup)
    (h : (validate p file overrides).2 = .ok text) :
    ∃ stored, configurationText stored = text ∧
      ∀ key ∈ overrides.keys, OverrideWins p.registry overrides stored key := by
  obtain ⟨stored, hstored, htext⟩ := validate_eq_ok_iff.mp h
  refine ⟨stored, htext, fun key hkey ↦ ?_⟩
  obtain ⟨deciding, last, hdeciding, hlast, -, -, hwins⟩ := exists_deciding_last hstored hkey
  refine hwins ?_
  have hlast := List.mem_of_getLast? hlast
  rcases mem_of_decidingSpelling?_eq_some hdeciding with hmem | ⟨hmem, hall⟩
  · exact Mapping.eq_of_mem_spellings hoverrides hmem hlast
  · refine Mapping.eq_of_mem_spellings hfile hmem (Mapping.mem_spellings.mpr ⟨hall _ hlast, ?_⟩)
    exact (Mapping.mem_spellings.mp hlast).2

end CommandLine

end TableProperties
