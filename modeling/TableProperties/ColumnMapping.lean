import TableProperties.Text.Lower

/-!
# Column mapping modes

How the columns of a table are tied to the columns of its data files: by position, by an
identifier or by a physical name. A mode is configured by its name in any casing.
-/

namespace TableProperties

/-- How physical column names are resolved for a table. -/
inductive ColumnMapping where
  /-- Columns carry their logical names. -/
  | none
  /-- Columns are resolved by identifier. -/
  | id
  /-- Columns are resolved by physical name. -/
  | name
  deriving DecidableEq, Repr

namespace ColumnMapping

/-- Every mode, in the order in which messages list them. -/
def all : List ColumnMapping := [.none, .id, .name]

/-- The configured form of a mode. -/
def text : ColumnMapping → String
  | .none => "none"
  | .id => "id"
  | .name => "name"

/-- The mode that a text names, ignoring case. -/
def ofText? (raw : String) : Option ColumnMapping :=
  all.find? fun mode ↦ mode.text == Text.lowercase raw

theorem text_injective {a b : ColumnMapping} (h : a.text = b.text) : a = b := by
  cases a <;> cases b <;> first | rfl | (exact absurd h (by decide))

theorem mem_all (mode : ColumnMapping) : mode ∈ all := by
  cases mode <;> decide

/-- A text names a mode exactly when its lower case form is the configured form. -/
theorem ofText?_eq_some_iff {raw : String} {mode : ColumnMapping} :
    ofText? raw = some mode ↔ mode.text = Text.lowercase raw := by
  constructor
  · intro h
    simpa using List.find?_some h
  · intro h
    cases hf : ofText? raw with
    | none =>
      have := List.find?_eq_none.1 hf mode (mem_all mode)
      simp [h] at this
    | some found =>
      have hfound : found.text = Text.lowercase raw := by simpa using List.find?_some hf
      rw [text_injective (hfound.trans h.symm)]

end ColumnMapping

end TableProperties
