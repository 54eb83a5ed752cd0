/-!
# Ranges of characters

The properties of characters that the Unicode Character Database defines are given here as tables of
inclusive code point ranges. This file holds the one operation on such a table, membership.
-/

namespace TableProperties.Text

/-- A set of characters, written as inclusive ranges of code points. -/
abbrev Ranges := List (Nat × Nat)

/-- Whether `c` lies in one of the ranges. -/
def Ranges.contains (rs : Ranges) (c : Char) : Bool :=
  rs.any fun r ↦ decide (r.1 ≤ c.toNat) && decide (c.toNat ≤ r.2)

theorem Ranges.contains_iff {rs : Ranges} {c : Char} :
    rs.contains c = true ↔ ∃ r ∈ rs, r.1 ≤ c.toNat ∧ c.toNat ≤ r.2 := by
  simp [Ranges.contains]

end TableProperties.Text
