import TableProperties.Interval
import TableProperties.Proofs.Except

/-!
# Lengths of intervals

Every partial sum of an interval is checked to fit in 64 bits, so the sum as a whole does, and so
does the number of milliseconds that it is rounded to.
-/

namespace TableProperties.Interval

variable {s : List Char} {total n : Int}

theorem inRange_of_microsOf (htotal : inRange total = true) (h : microsOf total s = .ok n) :
    inRange n = true := by
  fun_induction microsOf total s with
  | case1 => exact Except.ok.inj h ▸ htotal
  | case2 | case3 | case4 | case6 => exact absurd h (by simp)
  | case5 total s _ p _ micros _ hrange _ =>
    rw [Bool.not_eq_true, Bool.not_eq_false'] at hrange
    exact Except.ok.inj h ▸ hrange
  | case7 total s _ p _ micros _ hrange _ _ ih =>
    rw [Bool.not_eq_true, Bool.not_eq_false'] at hrange
    exact ih hrange h

/-- The number of milliseconds fits in 64 bits. -/
theorem millisOfText_bounds (h : millisOfText s = .ok n) : -(2 ^ 63) ≤ n ∧ n < 2 ^ 63 := by
  rw [millisOfText] at h
  split at h
  · exact absurd h (by simp)
  · obtain ⟨micros, hmicros, rfl⟩ := Except.map_eq_ok_iff.mp h
    have hrange := inRange_of_microsOf (by decide) hmicros
    rw [inRange, Bool.and_eq_true, decide_eq_true_eq, decide_eq_true_eq] at hrange
    have habs : (micros.tdiv 1000).natAbs = micros.natAbs / 1000 := Int.natAbs_tdiv micros 1000
    omega

end TableProperties.Interval
