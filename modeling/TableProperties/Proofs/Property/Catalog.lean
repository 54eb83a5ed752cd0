import Mathlib.Data.List.Nodup
import TableProperties.Proofs.Text.Lower
import TableProperties.Validation

/-!
# Facts about the built-in properties

Their keys belong to the reserved namespace and differ even when case is ignored, and a table
without any stored properties has a value for each of them. The keys are ASCII texts, so that their
lower case forms are those of the core library and can be compared by evaluation.
-/

namespace TableProperties.Catalog

variable {p q : Property}

theorem lowercase_key_of_mem (hp : p ∈ all) :
    Text.lowercase p.key = String.ofList (p.key.toList.map Char.toLower) := by
  have hascii : (all.all fun p ↦ p.key.toList.all fun c ↦ Nat.blt c.toNat 0x80) = true := by
    decide +kernel
  refine Text.lowercase_of_ascii fun c hc ↦ ?_
  have hkey := List.all_eq_true.mp hascii p hp
  exact Nat.blt_eq.mp (List.all_eq_true.mp hkey c hc)

theorem lowercase_eq_lowercase_key {s : String} (hp : p ∈ all)
    (hascii : s.toList.all (·.toNat < 0x80) = true)
    (h : s.toList.map Char.toLower = p.key.toList.map Char.toLower) :
    Text.lowercase s = Text.lowercase p.key := by
  have hall : ∀ c ∈ s.toList, c.toNat < 0x80 := by
    simpa only [List.all_eq_true, decide_eq_true_eq] using hascii
  rw [Text.lowercase_of_ascii hall, lowercase_key_of_mem hp, h]

theorem nodup_lowercase_key : (all.map fun p ↦ Text.lowercase p.key).Nodup := by
  rw [List.map_congr_left fun p hp ↦ lowercase_key_of_mem hp]
  decide +kernel

theorem isReserved_lowercase_key (hp : p ∈ all) : isReserved (Text.lowercase p.key) = true := by
  have hreserved : (all.all fun p ↦
      isReserved (String.ofList (p.key.toList.map Char.toLower))) = true := by
    decide +kernel
  rw [lowercase_key_of_mem hp]
  exact List.all_eq_true.mp hreserved p hp

theorem eq_of_lowercase_key_eq (hp : p ∈ all) (hq : q ∈ all)
    (h : Text.lowercase p.key = Text.lowercase q.key) : p = q :=
  List.inj_on_of_nodup_map nodup_lowercase_key hp hq h

theorem eq_of_key_eq (hp : p ∈ all) (hq : q ∈ all) (h : p.key = q.key) : p = q :=
  eq_of_lowercase_key_eq hp hq (congrArg Text.lowercase h)

/-- Every default passes the check of its property, and a property without one is optional. -/
theorem exists_read_empty (hp : p ∈ all) : ∃ v, p.read .empty = .ok v := by
  have hread : (all.all fun p ↦ (p.read .empty).toBool) = true := by decide +kernel
  have h := List.all_eq_true.mp hread p hp
  cases hv : p.read .empty with
  | error e => rw [hv] at h; exact absurd h Bool.false_ne_true
  | ok v => exact ⟨v, rfl⟩

/-- Only the optional properties read where there is no text, and they read as absent. -/
theorem optional_of_reader_none {v : Value} (hp : p ∈ all) (h : p.reader none = .ok v) :
    p.optional = true ∧ v = .absent := by
  have hnone : (all.all fun p ↦
      (p.reader none).toOption.all fun v ↦ p.optional && decide (v = .absent)) = true := by
    decide +kernel
  have hv := List.all_eq_true.mp hnone p hp
  rw [h] at hv
  simpa [Except.toOption] using hv

end TableProperties.Catalog
