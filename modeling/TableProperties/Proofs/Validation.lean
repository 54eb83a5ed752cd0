import TableProperties.Proofs.Registry

/-!
# Validated batches

A batch is validated entry by entry with an accumulator, and the first entry that is refused ends
the loop. Both halves of the outcome have a description that knows neither loop nor accumulator: the
batch is refused with the first refusal in its order, and otherwise every entry is inserted under
its *normal key*. Two keys have the same normal key exactly when they agree in lower case, whatever
the registry is, so the value that is stored under a normal key is that of the last entry with any
spelling of it.

## Main statements

* `normalKey_eq_normalKey_iff`: normal keys are keys up to case.
* `refusal?_eq_none_iff`: which entries are accepted.
* `validate_eq`: the outcome of a batch.
* `get?_of_validate`: the values that are stored.
* `exists_property_of_get?_of_validate`: what is stored under reserved keys.
* `validate_of_validate`: what is stored is accepted as it is.
-/

namespace TableProperties

open Text (lowercase)

/-- The error with which an entry is refused. -/
def Verdict.refusal? : Verdict → Option PropertyError
  | .refuse e => some e
  | _ => none

namespace Registry

variable {r : Registry} {p : Property} {key other : String}

/-! ## Normal keys -/

/-- The key under which an entry is stored: the canonical key of a property, or the key in lower
case outside the reserved namespace. -/
def normalKey (r : Registry) (key : String) : String :=
  if isReserved (lowercase key) then
    ((r.lookup (lowercase key)).map Property.key).getD (lowercase key)
  else lowercase key

theorem normalKey_of_not_isReserved (h : isReserved (lowercase key) = false) :
    r.normalKey key = lowercase key := by
  simp [normalKey, h]

theorem normalKey_of_lookup (hreserved : isReserved (lowercase key) = true)
    (h : r.lookup (lowercase key) = some p) : r.normalKey key = p.key := by
  simp [normalKey, hreserved, h]

@[simp] theorem lowercase_normalKey (r : Registry) (key : String) :
    lowercase (r.normalKey key) = lowercase key := by
  by_cases hreserved : isReserved (lowercase key) = true
  · cases hlookup : r.lookup (lowercase key) with
    | none => simp [normalKey, hreserved, hlookup]
    | some p =>
      rw [normalKey_of_lookup hreserved hlookup, lowercase_key_of_lookup hlookup]
  · rw [normalKey_of_not_isReserved (Bool.eq_false_iff.mpr hreserved), Text.lowercase_lowercase]

/-- Normal keys are keys up to case. -/
theorem normalKey_eq_normalKey_iff :
    r.normalKey key = r.normalKey other ↔ lowercase key = lowercase other := by
  constructor
  · intro h
    rw [← lowercase_normalKey r key, h, lowercase_normalKey]
  · intro h
    rw [normalKey, normalKey, h]

/-- The canonical key of a registered property of the reserved namespace is the normal key of all
its spellings. -/
theorem normalKey_eq_key_iff (hreserved : isReserved (lowercase p.key) = true)
    (hp : r.lookup (lowercase p.key) = some p) :
    r.normalKey key = p.key ↔ lowercase key = lowercase p.key := by
  rw [← normalKey_eq_normalKey_iff (r := r), normalKey_of_lookup hreserved hp]

/-! ## Single entries -/

/-- The error with which an entry is refused. -/
def refusal? (r : Registry) (entry : String × Option String) : Option PropertyError :=
  (r.judge entry.1 entry.2).refusal?

/-- An entry is accepted outside the reserved namespace, and within it if it names an editable
property that accepts its value. -/
theorem refusal?_eq_none_iff {value : Option String} :
    r.refusal? (key, value) = none ↔
      isReserved (lowercase key) = false ∨
        ∃ p v, r.lookup (lowercase key) = some p ∧ p.editable = true ∧ p.check value = .ok v := by
  unfold refusal? judge
  by_cases hreserved : isReserved (lowercase key) = true
  · cases hlookup : r.lookup (lowercase key) with
    | none => simp [hreserved, hlookup, Verdict.refusal?]
    | some p =>
      by_cases heditable : p.editable = true
      · cases hcheck : p.check value with
        | error e => simp [hreserved, hlookup, heditable, hcheck, Verdict.refusal?]
        | ok v => simp [hreserved, hlookup, heditable, hcheck, Verdict.refusal?]
      · simp [hreserved, hlookup, heditable, Verdict.refusal?]
  · simp [hreserved, Verdict.refusal?]

/-- An accepted entry goes to its normal key. -/
theorem eq_normalKey_of_judge {value : Option String} {stored : String}
    (h : r.judge key value = .passThrough stored ∨ r.judge key value = .store stored) :
    stored = r.normalKey key := by
  unfold judge at h
  by_cases hreserved : isReserved (lowercase key) = true
  · cases hlookup : r.lookup (lowercase key) with
    | none => simp [hreserved, hlookup] at h
    | some p =>
      rw [normalKey_of_lookup hreserved hlookup]
      simp only [hreserved, hlookup, if_true] at h
      split at h
      · split at h
        · simpa [eq_comm] using h
        · simp at h
      · simp at h
  · rw [normalKey_of_not_isReserved (Bool.eq_false_iff.mpr hreserved)]
    simpa [hreserved, eq_comm] using h

/-! ## The loop -/

/-- One step of the loop: the entry is refused, or inserted under its normal key. -/
theorem validateFrom_cons (accepted : Configuration) (entry : String × Option String)
    (rest : List (String × Option String)) :
    r.validateFrom accepted (entry :: rest) =
      match r.refusal? entry with
      | some e => .error e
      | none => r.validateFrom (accepted.insert (r.normalKey entry.1) entry.2) rest := by
  obtain ⟨key, value⟩ := entry
  rw [validateFrom, refusal?]
  cases hjudge : r.judge key value with
  | passThrough stored =>
    obtain rfl := eq_normalKey_of_judge (.inl hjudge)
    rfl
  | store stored =>
    obtain rfl := eq_normalKey_of_judge (.inr hjudge)
    rfl
  | refuse e => rfl

theorem validateFrom_eq (accepted : Configuration) (entries : List (String × Option String)) :
    r.validateFrom accepted entries =
      match entries.findSome? r.refusal? with
      | some e => .error e
      | none => .ok (accepted.insertMany (entries.map fun e ↦ (r.normalKey e.1, e.2))) := by
  induction entries generalizing accepted with
  | nil => rfl
  | cons entry rest ih =>
    rw [validateFrom_cons, List.findSome?_cons]
    cases r.refusal? entry with
    | some e => rfl
    | none => exact ih _

/-- The outcome of a batch: the first refusal, or every entry under its normal key. -/
theorem validate_eq (batch : Configuration) :
    r.validate batch =
      match batch.entries.findSome? r.refusal? with
      | some e => .error e
      | none => .ok (.ofList (batch.entries.map fun e ↦ (r.normalKey e.1, e.2))) :=
  validateFrom_eq .empty batch.entries

/-! ## What is stored -/

section Stored

variable {batch stored : Configuration}

theorem validate_eq_ok_iff :
    r.validate batch = .ok stored ↔
      (∀ entry ∈ batch.entries, r.refusal? entry = none) ∧
        stored = .ofList (batch.entries.map fun e ↦ (r.normalKey e.1, e.2)) := by
  rw [validate_eq, ← List.findSome?_eq_none_iff]
  cases batch.entries.findSome? r.refusal? with
  | some e => simp
  | none => simp [eq_comm]

/-- The batch of a single entry that is accepted. -/
theorem validate_ofList_singleton {value : Option String} (h : r.refusal? (key, value) = none) :
    r.validate (.ofList [(key, value)]) = .ok (.ofList [(r.normalKey key, value)]) := by
  refine validate_eq_ok_iff.mpr ⟨fun entry hentry ↦ ?_, rfl⟩
  rw [List.mem_singleton.mp hentry]
  exact h

/-- The value under a key is that of the last entry with this normal key. -/
theorem get?_of_validate (h : r.validate batch = .ok stored) (key : String) :
    stored.get? key = lastValue? (fun k ↦ r.normalKey k == key) batch.entries := by
  obtain ⟨-, rfl⟩ := validate_eq_ok_iff.mp h
  rw [Mapping.ofList, Mapping.get?_insertMany_map, Mapping.get?_empty, Option.or_none]

theorem mem_keys_of_validate (h : r.validate batch = .ok stored) :
    key ∈ stored.keys ↔ ∃ other ∈ batch.keys, r.normalKey other = key := by
  obtain ⟨-, rfl⟩ := validate_eq_ok_iff.mp h
  rw [Mapping.ofList, Mapping.mem_keys_insertMany, Mapping.keys_empty, List.map_map]
  simp [Mapping.keys]

/-- An entry that is stored under a key comes from an accepted entry of the batch. -/
theorem exists_entry_of_get?_of_validate {value : Option String}
    (h : r.validate batch = .ok stored) (hkey : stored.get? key = some value) :
    ∃ other, (other, value) ∈ batch.entries ∧ r.normalKey other = key ∧
      r.refusal? (other, value) = none := by
  rw [get?_of_validate h] at hkey
  obtain ⟨other, hmem, hother⟩ := exists_mem_of_lastValue?_eq_some hkey
  exact ⟨other, hmem, by simpa using hother, (validate_eq_ok_iff.mp h).1 _ hmem⟩

/-- What is stored under a reserved key is an accepted value of an editable property, under its
canonical key. -/
theorem exists_property_of_get?_of_validate {value : Option String}
    (h : r.validate batch = .ok stored) (hreserved : isReserved (lowercase key) = true)
    (hkey : stored.get? key = some value) :
    ∃ p v, r.lookup (lowercase key) = some p ∧ p.key = key ∧ p.editable = true ∧
      p.check value = .ok v := by
  obtain ⟨other, -, rfl, haccepted⟩ := exists_entry_of_get?_of_validate h hkey
  rw [lowercase_normalKey] at hreserved ⊢
  rcases refusal?_eq_none_iff.mp haccepted with hfree | ⟨p, v, hp, heditable, hcheck⟩
  · exact absurd hreserved (by simp [hfree])
  · exact ⟨p, v, hp, (normalKey_of_lookup hreserved hp).symm, heditable, hcheck⟩

/-- What is stored under another key stands there in lower case. -/
theorem lowercase_eq_self_of_get?_of_validate {value : Option String}
    (h : r.validate batch = .ok stored) (hfree : isReserved (lowercase key) = false)
    (hkey : stored.get? key = some value) : lowercase key = key := by
  obtain ⟨other, -, rfl, -⟩ := exists_entry_of_get?_of_validate h hkey
  rw [lowercase_normalKey] at hfree ⊢
  exact (normalKey_of_not_isReserved hfree).symm

/-- Whether an entry is accepted depends on its key only up to case. -/
theorem refusal?_eq_none_congr {value : Option String} (hkey : lowercase key = lowercase other)
    (h : r.refusal? (other, value) = none) : r.refusal? (key, value) = none := by
  rw [refusal?_eq_none_iff] at h ⊢
  rw [hkey]
  exact h

/-- What is stored is accepted as it is. -/
theorem validate_of_validate (h : r.validate batch = .ok stored) : r.validate stored = .ok stored := by
  have haccepted : ∀ entry ∈ stored.entries,
      r.refusal? entry = none ∧ (r.normalKey entry.1, entry.2) = entry := by
    rintro ⟨key, value⟩ hentry
    obtain ⟨other, -, rfl, hnone⟩ :=
      exists_entry_of_get?_of_validate h (Mapping.get?_eq_some_iff.mpr hentry)
    refine ⟨refusal?_eq_none_congr (lowercase_normalKey r other) hnone, ?_⟩
    rw [normalKey_eq_normalKey_iff.mpr (lowercase_normalKey r other)]
  refine validate_eq_ok_iff.mpr ⟨fun entry hentry ↦ (haccepted entry hentry).1, ?_⟩
  have hmap : stored.entries.map (fun e ↦ (r.normalKey e.1, e.2)) = stored.entries.map id :=
    List.map_congr_left fun entry hentry ↦ (haccepted entry hentry).2
  rw [hmap, List.map_id, Mapping.ofList_entries]

end Stored

end Registry

/-! ## Entries of the built-in properties -/

namespace Catalog

variable {p : Property} {key : String}

theorem normalKey_eq_key_iff (hp : p ∈ all) :
    Registry.builtin.normalKey key = p.key ↔ lowercase key = lowercase p.key :=
  Registry.normalKey_eq_key_iff (isReserved_lowercase_key hp)
    (Registry.lookup_builtin_eq_some_iff.mpr ⟨hp, rfl⟩)

/-- An entry that names an editable property in any spelling is accepted with the values that the
property accepts. -/
theorem refusal?_eq_none {value : Option String} {v : Value} (hp : p ∈ all)
    (heditable : p.editable = true) (hkey : lowercase key = lowercase p.key)
    (hcheck : p.check value = .ok v) : Registry.builtin.refusal? (key, value) = none := by
  have hlookup := Registry.lookup_builtin_eq_some_iff.mpr ⟨hp, hkey.symm⟩
  exact Registry.refusal?_eq_none_iff.mpr (.inr ⟨p, v, hlookup, heditable, hcheck⟩)

end Catalog

end TableProperties
