import TableProperties.Proofs.Mapping.Overlay
import TableProperties.Proofs.Validation

/-!
# Refused entries

Which entries a registry refuses, and with which error, said by rules on a single entry: there are
four reasons, and each of them excludes the others. The loop over a batch then has a description
without a loop. Its error is that of the first entry that is refused, whatever stands before and
behind it, and its result is made of the normal keys of all entries, each where it occurs first,
with the value of the last entry that has it.

## Main statements

* `refusal?_eq_some_iff`: the rules are those by which the loop judges.
* `validate_by_entries`: the outcome of a batch.
-/

namespace TableProperties.Registry

open Text (lowercase)

variable {r : Registry} {p : Property} {key : String} {value : Option String}
  {entry : String × Option String} {e : PropertyError} {batch stored : Configuration}

/-- The entries that a registry refuses. All of them have reserved keys. The first two errors name
the key as it was spelled and do not depend on the value; the other two name the canonical key and
hold the value as it is. -/
inductive Refuses (r : Registry) : String × Option String → PropertyError → Prop
  /-- No property has the key. -/
  | unknown {key : String} {value : Option String} (hreserved : isReserved (lowercase key) = true)
      (hlookup : r.lookup (lowercase key) = none) :
      Refuses r (key, value) (.unknown key)
  /-- The property of the key may not be changed. -/
  | notEditable {key : String} {value : Option String} {p : Property}
      (hreserved : isReserved (lowercase key) = true)
      (hlookup : r.lookup (lowercase key) = some p) (heditable : p.editable = false) :
      Refuses r (key, value) (.notEditable key)
  /-- The value does not read. -/
  | unreadable {key : String} {value : Option String} {p : Property} {rejection : Rejection}
      (hreserved : isReserved (lowercase key) = true)
      (hlookup : r.lookup (lowercase key) = some p) (heditable : p.editable = true)
      (hreader : p.reader value = .error rejection) :
      Refuses r (key, value) (.invalid p.key value p.help (some rejection))
  /-- The value reads as one that the property does not accept. -/
  | unacceptable {key : String} {value : Option String} {p : Property} {v : Value}
      (hreserved : isReserved (lowercase key) = true)
      (hlookup : r.lookup (lowercase key) = some p) (heditable : p.editable = true)
      (hreader : p.reader value = .ok v) (haccepts : p.accepts v = false) :
      Refuses r (key, value) (.invalid p.key value p.help none)

/-! ## One entry -/

theorem refuses_of_check (hreserved : isReserved (lowercase key) = true)
    (hlookup : r.lookup (lowercase key) = some p) (heditable : p.editable = true)
    (hcheck : p.check value = .error e) : r.Refuses (key, value) e := by
  unfold Property.check at hcheck
  cases hreader : p.reader value with
  | error rejection =>
    simp only [hreader, Except.error.injEq] at hcheck
    exact hcheck ▸ .unreadable hreserved hlookup heditable hreader
  | ok v =>
    simp only [hreader] at hcheck
    split at hcheck
    · exact absurd hcheck (by simp)
    · next haccepts =>
      rw [Except.error.injEq] at hcheck
      exact hcheck ▸ .unacceptable hreserved hlookup heditable hreader
        (Bool.eq_false_iff.mpr haccepts)

theorem refuses_of_refusal? (h : r.refusal? (key, value) = some e) :
    r.Refuses (key, value) e := by
  unfold refusal? judge at h
  -- the cases are those of the verdict, in its order
  by_cases hreserved : isReserved (lowercase key) = true
  · cases hlookup : r.lookup (lowercase key) with
    | none =>
      simp only [hreserved, hlookup, if_true, Verdict.refusal?, Option.some.injEq] at h
      exact h ▸ .unknown hreserved hlookup
    | some p =>
      by_cases heditable : p.editable = true
      · cases hcheck : p.check value with
        | ok v => simp [hreserved, hlookup, heditable, hcheck, Verdict.refusal?] at h
        | error e' =>
          simp only [hreserved, hlookup, heditable, hcheck, if_true, Verdict.refusal?,
            Option.some.injEq] at h
          exact h ▸ refuses_of_check hreserved hlookup heditable hcheck
      · simp only [hreserved, hlookup, heditable, if_true, Bool.false_eq_true, if_false,
          Verdict.refusal?, Option.some.injEq] at h
        exact h ▸ .notEditable hreserved hlookup (Bool.eq_false_iff.mpr heditable)
  · simp [hreserved, Verdict.refusal?] at h

/-- The rules for refusing an entry are those by which entries are judged. -/
theorem refusal?_eq_some_iff : r.refusal? entry = some e ↔ r.Refuses entry e := by
  constructor
  · exact refuses_of_refusal?
  · rintro (⟨hreserved, hlookup⟩ | ⟨hreserved, hlookup, heditable⟩ |
      ⟨hreserved, hlookup, heditable, hreader⟩ |
      ⟨hreserved, hlookup, heditable, hreader, haccepts⟩)
    · simp [refusal?, judge, Verdict.refusal?, hreserved, hlookup]
    · simp [refusal?, judge, Verdict.refusal?, hreserved, hlookup, heditable]
    · simp [refusal?, judge, Verdict.refusal?, hreserved, hlookup, heditable, Property.check,
        hreader, Property.invalid]
    · simp [refusal?, judge, Verdict.refusal?, hreserved, hlookup, heditable, Property.check,
        hreader, haccepts, Property.invalid]

theorem refusal?_eq_none_iff_forall :
    r.refusal? entry = none ↔ ∀ e, ¬ r.Refuses entry e := by
  rw [Option.eq_none_iff_forall_ne_some]
  exact forall_congr' fun e ↦ not_congr refusal?_eq_some_iff

/-! ## The batch -/

/-- The error of a batch is that of its first entry that is refused. -/
theorem validate_eq_error_iff :
    r.validate batch = .error e ↔
      ∃ front entry back, batch.entries = front ++ entry :: back ∧
        (∀ other ∈ front, ∀ e', ¬ r.Refuses other e') ∧ r.Refuses entry e := by
  have hfirst : r.validate batch = .error e ↔
      batch.entries.findSome? r.refusal? = some e := by
    rw [validate_eq]
    cases batch.entries.findSome? r.refusal? with
    | some e' => simp
    | none => simp
  rw [hfirst, List.findSome?_eq_some_iff]
  constructor
  · rintro ⟨front, entry, back, hentries, hentry, hfront⟩
    exact ⟨front, entry, back, hentries,
      fun other hother ↦ refusal?_eq_none_iff_forall.mp (hfront other hother),
      refusal?_eq_some_iff.mp hentry⟩
  · rintro ⟨front, entry, back, hentries, hfront, hentry⟩
    exact ⟨front, entry, back, hentries, refusal?_eq_some_iff.mpr hentry,
      fun other hother ↦ refusal?_eq_none_iff_forall.mpr (hfront other hother)⟩

/-- The result of a batch is determined by its keys, in their order, and by its values. -/
theorem validate_eq_ok_iff_keys :
    r.validate batch = .ok stored ↔
      (∀ entry ∈ batch.entries, ∀ e, ¬ r.Refuses entry e) ∧
        stored.keys = (batch.keys.map r.normalKey).eraseDups ∧
        ∀ key, stored.get? key = lastValue? (fun k ↦ r.normalKey k == key) batch.entries := by
  have hkeys : (batch.entries.map fun e ↦ (r.normalKey e.1, e.2)).map Prod.fst
      = batch.keys.map r.normalKey := by
    rw [Mapping.keys, List.map_map, List.map_map]
    rfl
  have hlast (key : String) :
      lastValue? (· == key) (batch.entries.map fun e ↦ (r.normalKey e.1, e.2))
        = lastValue? (fun k ↦ r.normalKey k == key) batch.entries := by
    rw [lastValue?_map]
    rfl
  rw [validate_eq_ok_iff, Mapping.eq_ofList_iff, hkeys]
  simp only [hlast, refusal?_eq_none_iff_forall]

/-- **The outcome of a batch, entry by entry.** A batch fails if and only if one of its entries is
refused, with the error of the first such entry, which depends on that entry alone. Otherwise the
normal keys of its entries are stored in the order of their first occurrences, each with the value
of the last entry that has it. -/
theorem validate_by_entries (r : Registry) (batch : Configuration) :
    ((∃ e, r.validate batch = .error e) ↔ ∃ entry ∈ batch.entries, ∃ e, r.Refuses entry e) ∧
      (∀ e, r.validate batch = .error e ↔
        ∃ front entry back, batch.entries = front ++ entry :: back ∧
          (∀ other ∈ front, ∀ e', ¬ r.Refuses other e') ∧ r.Refuses entry e) ∧
      ∀ stored, r.validate batch = .ok stored ↔
        (∀ entry ∈ batch.entries, ∀ e, ¬ r.Refuses entry e) ∧
          stored.keys = (batch.keys.map r.normalKey).eraseDups ∧
          ∀ key, stored.get? key = lastValue? (fun k ↦ r.normalKey k == key) batch.entries := by
  refine ⟨?_, fun e ↦ validate_eq_error_iff, fun stored ↦ validate_eq_ok_iff_keys⟩
  constructor
  · rintro ⟨e, he⟩
    obtain ⟨front, entry, back, hentries, -, hentry⟩ := validate_eq_error_iff.mp he
    exact ⟨entry, by simp [hentries], e, hentry⟩
  · rintro ⟨entry, hmem, e, hentry⟩
    cases hvalidate : r.validate batch with
    | error e' => exact ⟨e', rfl⟩
    | ok stored => exact absurd hentry ((validate_eq_ok_iff_keys.mp hvalidate).1 entry hmem e)

end TableProperties.Registry
