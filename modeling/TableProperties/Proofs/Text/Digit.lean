import Mathlib.Data.List.Forall2
import Mathlib.Data.List.Induction
import Mathlib.Data.Nat.Digits.Defs
import TableProperties.Text.Digit

/-!
# Digits and their values

The zeros of the scripts are at least ten code points apart, so a character is a digit of one script
at most, and the number that it stands for is its distance from the zero of this script. A run of
digits is read in base ten, whichever scripts they belong to.

## Main statements

* `digitValue?_eq_some_iff`: which characters are digits, and of which value.
* `decimalValue_eq_ofDigits`: a run of digits is read in base ten.
-/

namespace TableProperties.Text

variable {c : Char} {m n : Nat} {digits : List Char} {values : List Nat}

/-! ## Single digits -/

/-- Whether a character is the digit for a number below ten: it stands so many code points behind
the zero of a script. -/
def IsDigitOf (c : Char) (n : Nat) : Prop :=
  ∃ z ∈ zeros, c.toNat = z + n ∧ n < 10

/-- The ten code points behind a zero belong to no other script. -/
theorem eq_of_mem_zeros {y z : Nat} (hy : y ∈ zeros) (hz : z ∈ zeros) (hyn : y ≤ n ∧ n < y + 10)
    (hzn : z ≤ n ∧ n < z + 10) : y = z := by
  have happart : (zeros.all fun y ↦ zeros.all fun z ↦
      Nat.beq y z || Nat.ble (y + 10) z || Nat.ble (z + 10) y) = true := by
    decide +kernel
  have hyz := List.all_eq_true.mp (List.all_eq_true.mp happart y hy) z hz
  simp only [Bool.or_eq_true, Nat.beq_eq, Nat.ble_eq] at hyz
  omega

theorem digitValue?_eq_some_iff : digitValue? c = some n ↔ IsDigitOf c n := by
  rw [digitValue?, Option.map_eq_some_iff]
  constructor
  · rintro ⟨z, hfind, rfl⟩
    have hrange := List.find?_some hfind
    rw [Bool.and_eq_true, decide_eq_true_eq, decide_eq_true_eq] at hrange
    exact ⟨z, List.mem_of_find?_eq_some hfind, by omega, by omega⟩
  · rintro ⟨z, hz, hc, hn⟩
    have hrange : (decide (z ≤ c.toNat) && decide (c.toNat < z + 10)) = true := by
      rw [Bool.and_eq_true, decide_eq_true_eq, decide_eq_true_eq]
      omega
    -- the script that is found first is the only one
    cases hfind : zeros.find? fun y ↦ decide (y ≤ c.toNat) && decide (c.toNat < y + 10) with
    | none => exact absurd hrange (List.find?_eq_none.mp hfind z hz)
    | some found =>
      have hfound := List.find?_some hfind
      rw [Bool.and_eq_true, decide_eq_true_eq, decide_eq_true_eq] at hfound
      obtain rfl : found = z :=
        eq_of_mem_zeros (List.mem_of_find?_eq_some hfind) hz hfound (by omega)
      exact ⟨found, rfl, by omega⟩

theorem isDigit_iff : isDigit c = true ↔ ∃ n, IsDigitOf c n := by
  rw [isDigit, Option.isSome_iff_exists]
  simp only [digitValue?_eq_some_iff]

theorem IsDigitOf.digitValue_eq (h : IsDigitOf c n) : digitValue c = n := by
  rw [digitValue, digitValue?_eq_some_iff.mpr h]
  rfl

/-! ## Runs of digits -/

theorem forall₂_isDigitOf_iff :
    List.Forall₂ IsDigitOf digits values ↔
      (∀ c ∈ digits, isDigit c = true) ∧ values = digits.map digitValue := by
  constructor
  · intro h
    induction h with
    | nil => simp
    | cons hc _ ih =>
      obtain ⟨hdigits, rfl⟩ := ih
      refine ⟨List.forall_mem_cons.mpr ⟨isDigit_iff.mpr ⟨_, hc⟩, hdigits⟩, ?_⟩
      rw [List.map_cons, hc.digitValue_eq]
  · rintro ⟨hdigits, rfl⟩
    rw [List.forall₂_map_right_iff, List.forall₂_same]
    intro c hc
    obtain ⟨n, hn⟩ := isDigit_iff.mp (hdigits c hc)
    rw [hn.digitValue_eq]
    exact hn

/-- A run of digits is read in base ten; the digit of the ones is its last one. -/
theorem decimalValue_eq_ofDigits (digits : List Char) :
    decimalValue digits = Nat.ofDigits 10 (digits.map digitValue).reverse := by
  induction digits using List.reverseRecOn with
  | nil => rfl
  | append_singleton digits c ih =>
    rw [decimalValue_append_singleton, ih, List.map_append, List.map_singleton,
      List.reverse_append, List.reverse_singleton, List.singleton_append, Nat.ofDigits_cons]
    exact Nat.add_comm _ _

end TableProperties.Text
