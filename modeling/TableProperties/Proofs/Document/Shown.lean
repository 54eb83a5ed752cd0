import TableProperties.Document.Flatten
import TableProperties.Proofs.Integer

/-!
# Documents without a text

Only integers with more digits than are converted have no text, and with them every document that
holds one of them, as an item, as a key or as a value, at any depth. A leaf with a text can still
fail to become a property: it may be null, or a point in time with too large a distance from
universal time.

## Main statements

* `Document.text?_eq_none_iff`: which documents have no text.
* `Document.property_eq_error_iff`: which leaves become no property.
-/

namespace TableProperties

/-! ## Scalars -/

namespace Scalar

/-- Whether a scalar is an integer with more digits than are converted. -/
def IsLongInteger : Scalar → Prop
  | int n => 10 ^ Integer.maxDigits ≤ n.natAbs
  | _ => False

theorem intText?_eq_none_iff (n : Int) :
    intText? n = none ↔ 10 ^ Integer.maxDigits ≤ n.natAbs := by
  have hlength : (Nat.toDigits 10 n.natAbs).length ≤ Integer.maxDigits
      ↔ n.natAbs < 10 ^ Integer.maxDigits :=
    Nat.length_toDigits_le_iff (by decide) (by decide)
  have hcount : (if n < 0 then (Integer.decimal n).length - 1 else (Integer.decimal n).length)
      = (Nat.toDigits 10 n.natAbs).length := by
    rw [Integer.decimal_eq, Integer.signText]
    by_cases hneg : n < 0
    · rw [if_pos hneg, if_pos hneg]
      rfl
    · rw [if_neg hneg, if_neg hneg]
      rfl
  rw [← Nat.not_lt, ← hlength, intText?]
  simp only [hcount]
  split <;> simp_all

theorem text?_eq_none_iff (s : Scalar) : s.text? = none ↔ s.IsLongInteger := by
  cases s with
  | int n => exact intText?_eq_none_iff n
  | null | bool | float | text | date | time | dateTime | bytes => simp [text?, IsLongInteger]

theorem shown?_eq_none_iff (s : Scalar) : s.shown? = none ↔ s.IsLongInteger := by
  cases s with
  | text | date | time | dateTime => simp [shown?, IsLongInteger]
  | null | bool | int | float | bytes => simp only [shown?, text?_eq_none_iff]

end Scalar

/-! ## Documents -/

namespace Document

mutual

/-- Whether an integer with more digits than are converted stands somewhere in a document. -/
def HoldsLongInteger : Document → Prop
  | scalar s => s.IsLongInteger
  | list items => ItemsHoldLongInteger items
  | pairs items => PairsHoldLongInteger items
  | set items => ∃ s ∈ items, s.IsLongInteger
  | map entries => EntriesHoldLongInteger entries
  | loop _ => False

/-- Whether one of the items of a list holds such an integer. -/
def ItemsHoldLongInteger : List Document → Prop
  | [] => False
  | d :: rest => d.HoldsLongInteger ∨ ItemsHoldLongInteger rest

/-- Whether one side of one of the pairs holds such an integer. -/
def PairsHoldLongInteger : List (Document × Document) → Prop
  | [] => False
  | (k, v) :: rest => k.HoldsLongInteger ∨ v.HoldsLongInteger ∨ PairsHoldLongInteger rest

/-- Whether one of the entries is under such an integer or holds one. -/
def EntriesHoldLongInteger : List (Scalar × Document) → Prop
  | [] => False
  | (k, v) :: rest => k.IsLongInteger ∨ v.HoldsLongInteger ∨ EntriesHoldLongInteger rest

end

private theorem mapM_shown?_eq_none_iff {items : List Scalar} :
    items.mapM Scalar.shown? = none ↔ ∃ s ∈ items, s.IsLongInteger := by
  induction items with
  | nil => simp
  | cons s rest ih =>
    simp only [List.mapM_cons, List.mem_cons, exists_eq_or_imp]
    rw [← ih, ← Scalar.shown?_eq_none_iff]
    cases s.shown? <;> cases rest.mapM Scalar.shown? <;> simp

mutual

theorem shown?_eq_none_iff (d : Document) : d.shown? = none ↔ d.HoldsLongInteger := by
  cases d with
  | scalar s => exact s.shown?_eq_none_iff
  | list items => rw [shown?, Option.map_eq_none_iff, shownItems?_eq_none_iff, HoldsLongInteger]
  | pairs items => rw [shown?, Option.map_eq_none_iff, shownPairs?_eq_none_iff, HoldsLongInteger]
  | set items =>
    cases items with
    | nil => simp [shown?, HoldsLongInteger]
    | cons s rest =>
      rw [shown?, Option.map_eq_none_iff, mapM_shown?_eq_none_iff, HoldsLongInteger]
      exact List.cons_ne_nil s rest
  | map entries =>
    rw [shown?, Option.map_eq_none_iff, shownEntries?_eq_none_iff, HoldsLongInteger]
  | loop isMap => simp [shown?, HoldsLongInteger]

theorem shownItems?_eq_none_iff (items : List Document) :
    shownItems? items = none ↔ ItemsHoldLongInteger items := by
  cases items with
  | nil => simp [shownItems?, ItemsHoldLongInteger]
  | cons d rest =>
    rw [shownItems?, ItemsHoldLongInteger, ← shown?_eq_none_iff d, ← shownItems?_eq_none_iff rest]
    cases d.shown? <;> cases shownItems? rest <;> simp

theorem shownPairs?_eq_none_iff (items : List (Document × Document)) :
    shownPairs? items = none ↔ PairsHoldLongInteger items := by
  cases items with
  | nil => simp [shownPairs?, PairsHoldLongInteger]
  | cons e rest =>
    obtain ⟨k, v⟩ := e
    rw [shownPairs?, PairsHoldLongInteger, ← shown?_eq_none_iff k, ← shown?_eq_none_iff v,
      ← shownPairs?_eq_none_iff rest]
    cases k.shown? <;> cases v.shown? <;> cases shownPairs? rest <;> simp

theorem shownEntries?_eq_none_iff (entries : List (Scalar × Document)) :
    shownEntries? entries = none ↔ EntriesHoldLongInteger entries := by
  cases entries with
  | nil => simp [shownEntries?, EntriesHoldLongInteger]
  | cons e rest =>
    obtain ⟨k, v⟩ := e
    rw [shownEntries?, EntriesHoldLongInteger, ← k.shown?_eq_none_iff, ← shown?_eq_none_iff v,
      ← shownEntries?_eq_none_iff rest]
    cases k.shown? <;> cases v.shown? <;> cases shownEntries? rest <;> simp

end

/-- A document has no text exactly if it holds an integer with too many digits. -/
theorem text?_eq_none_iff (d : Document) : d.text? = none ↔ d.HoldsLongInteger := by
  cases d with
  | scalar s => exact s.text?_eq_none_iff
  | list | pairs | set | map | loop => exact shown?_eq_none_iff _

/-! ## Leaves -/

/-- The leaves that become no property, each with the reason. -/
inductive LacksProperty : Document → FlattenFault → Prop
  | null : LacksProperty (.scalar .null) .nullValue
  | longInteger {d : Document} (h : d.HoldsLongInteger) : LacksProperty d .tooLong
  | offset {t : DateTime} (h : t.hasOffsetInRange = false) :
      LacksProperty (.scalar (.dateTime t)) .offset

theorem writable_eq_error_iff {s : Option (List Char)} {fault : FlattenFault} :
    writable s = .error fault ↔ s = none ∧ fault = .tooLong := by
  cases s with
  | none => simp [writable, eq_comm]
  | some s => simp [writable]

/-- What becomes of a leaf that is not a mapping inside itself. -/
theorem property_eq_error_iff {d : Document} {fault : FlattenFault} (hloop : d ≠ .loop true) :
    d.property = .error fault ↔ d.LacksProperty fault := by
  unfold property
  -- null, truth values and points in time come first; all else has the text that is shown
  split
  · -- null
    constructor
    · intro h
      exact Except.error.inj h ▸ .null
    · rintro (_ | hlong)
      · rfl
      · exact hlong.elim
  · -- a truth value
    constructor
    · intro h
      exact absurd h (by simp)
    · rintro (_ | hlong)
      exact hlong.elim
  · next t =>
    by_cases hrange : t.hasOffsetInRange = true
    · rw [if_pos hrange]
      constructor
      · intro h
        exact absurd h (by simp [writable])
      · rintro (_ | hlong | hout)
        · exact hlong.elim
        · exact absurd hrange (by simp [hout])
    · rw [if_neg hrange]
      constructor
      · intro h
        exact Except.error.inj h ▸ .offset (Bool.eq_false_iff.mpr hrange)
      · rintro (_ | hlong | hout)
        · exact hlong.elim
        · rfl
  · exact absurd rfl hloop
  · next hnull hbool htime _ =>
    rw [writable_eq_error_iff, text?_eq_none_iff]
    constructor
    · rintro ⟨hlong, rfl⟩
      exact .longInteger hlong
    · rintro (_ | hlong | hout)
      · exact absurd rfl hnull
      · exact ⟨hlong, rfl⟩
      · exact absurd rfl (htime _)

end Document

end TableProperties
