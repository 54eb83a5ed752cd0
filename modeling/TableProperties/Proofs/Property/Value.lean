import TableProperties.Proofs.Interval
import TableProperties.Property.Catalog

/-!
# Integers among the values

Whatever the built-in properties read as an integer fits in 64 bits.

## Main statements

* `isLong_of_reader`, `isLong_of_read`: the bound, for raw values and for configurations.
-/

namespace TableProperties

variable {raw : Option String} {v : Value}

/-- Whether a value, if it is an integer, fits in 64 bits. -/
def Value.IsLong : Value → Prop
  | .int n => -(2 ^ 63) ≤ n ∧ n < 2 ^ 63
  | _ => True

theorem readBounded_eq_ok {least greatest n : Int} {s : String}
    (h : readBounded least greatest s = .ok n) : least ≤ n ∧ n ≤ greatest := by
  unfold readBounded at h
  split at h
  · exact absurd h (by simp)
  · split at h
    · exact absurd h (by simp)
    · exact absurd h (by simp)
    · split at h
      · next hbounds => exact Except.ok.inj h ▸ hbounds
      · exact absurd h (by simp)

namespace Reader

/-- A reader whose integers fit in 64 bits. -/
def GivesLong (reader : Reader) : Prop :=
  ∀ raw v, reader raw = .ok v → v.IsLong

/-- It is enough to look at what is read from texts. -/
theorem givesLong_ofText {α : Type} {read : String → Except Rejection α} {f : α → Value}
    (h : ∀ s a, read s = .ok a → (f a).IsLong) : GivesLong (ofText fun s ↦ (read s).map f) := by
  intro raw v hv
  cases raw with
  | none => exact absurd hv (by simp [ofText])
  | some s =>
    obtain ⟨a, hs, rfl⟩ := Except.map_eq_ok_iff.mp hv
    exact h s a hs

theorem givesLong_int64 : GivesLong int64 :=
  givesLong_ofText fun s n h ↦ by
    have hbounds := readBounded_eq_ok h
    rw [Value.IsLong]
    omega

theorem givesLong_int32 : GivesLong int32 :=
  givesLong_ofText fun s n h ↦ by
    have hbounds := readBounded_eq_ok h
    rw [Value.IsLong]
    omega

theorem givesLong_optionalInt64 : GivesLong optionalInt64 := by
  intro raw v hv
  cases raw with
  | none => exact Except.ok.inj hv ▸ trivial
  | some s => exact givesLong_int64 (some s) v hv

theorem givesLong_interval : GivesLong interval :=
  givesLong_ofText fun s n h ↦ by
    rw [readInterval, Except.mapError_eq_ok_iff] at h
    exact Interval.millisOfText_bounds h

theorem givesLong_bool : GivesLong bool :=
  givesLong_ofText fun _ _ _ ↦ trivial

theorem givesLong_mode : GivesLong mode :=
  givesLong_ofText fun _ _ _ ↦ trivial

end Reader

namespace Catalog

variable {p : Property}

theorem isLong_of_reader (hp : p ∈ all) (h : p.reader raw = .ok v) : v.IsLong := by
  have hreader : p.reader.GivesLong := by
    simp only [all, List.mem_cons, List.not_mem_nil, or_false] at hp
    rcases hp with rfl | rfl | rfl | rfl | rfl | rfl | rfl | rfl | rfl | rfl
    · exact Reader.givesLong_interval
    · exact Reader.givesLong_int32
    · exact Reader.givesLong_interval
    · exact Reader.givesLong_bool
    · exact Reader.givesLong_bool
    · exact Reader.givesLong_optionalInt64
    · exact Reader.givesLong_optionalInt64
    · exact Reader.givesLong_mode
    · exact Reader.givesLong_int64
    · exact Reader.givesLong_bool
  exact hreader raw v h

/-- The values of the built-in properties, as far as they are integers, fit in 64 bits. -/
theorem isLong_of_read {c : Configuration} (hp : p ∈ all) (h : p.read c = .ok v) : v.IsLong := by
  rw [Property.read] at h
  split at h
  · exact isLong_of_reader hp (Property.check_eq_ok_iff.mp h).1
  · split at h
    · exact Except.ok.inj h ▸ trivial
    · exact absurd h (by simp)

end Catalog

end TableProperties
