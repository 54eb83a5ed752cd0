import Mathlib.Data.List.TakeWhile
import TableProperties.Text.Blank
import TableProperties.Text.Digit

/-!
# White space among the characters

White-space characters stand in few ranges of code points, so that a run of code points that lies
between these ranges has none of them. The digits of all scripts are such runs.

A text that was trimmed does not start with white space, and trimming takes nothing else off.
-/

namespace TableProperties.Text

variable {c : Char} {s t : List Char} {p : Char → Bool}

/-! ## Ranges without white space -/

/-- Whether no white-space character has a code point between two bounds. -/
def missesBlanks (least greatest : Nat) : Bool :=
  [(0x09, 0x0d), (0x1c, 0x20), (0x85, 0x85), (0xa0, 0xa0), (0x1680, 0x1680), (0x2000, 0x200a),
    (0x2028, 0x2029), (0x202f, 0x202f), (0x205f, 0x205f), (0x3000, 0x3000)].all fun range ↦
      Nat.blt greatest range.1 || Nat.blt range.2 least

theorem not_isBlank_of_missesBlanks {least greatest : Nat} (h : missesBlanks least greatest = true)
    (hleast : least ≤ c.toNat) (hgreatest : c.toNat ≤ greatest) : isBlank c = false := by
  simp only [missesBlanks, List.all_cons, List.all_nil, Bool.and_eq_true, Bool.or_eq_true,
    Nat.blt_eq] at h
  simp only [isBlank, Bool.or_eq_false_iff, Bool.and_eq_false_iff, decide_eq_false_iff_not,
    beq_eq_false_iff_ne]
  omega

theorem exists_zero_of_isDigit (h : isDigit c = true) :
    ∃ z ∈ zeros, z ≤ c.toNat ∧ c.toNat ≤ z + 9 := by
  rw [isDigit, digitValue?, Option.isSome_map, List.find?_isSome] at h
  obtain ⟨z, hz, hc⟩ := h
  rw [Bool.and_eq_true, decide_eq_true_eq, decide_eq_true_eq] at hc
  exact ⟨z, hz, hc.1, by omega⟩

theorem not_isBlank_of_isDigit (h : isDigit c = true) : isBlank c = false := by
  have hmisses : (zeros.all fun z ↦ missesBlanks z (z + 9)) = true := by decide +kernel
  obtain ⟨z, hz, hleast, hgreatest⟩ := exists_zero_of_isDigit h
  exact not_isBlank_of_missesBlanks (List.all_eq_true.mp hmisses z hz) hleast hgreatest

/-! ## Runs at the front of a text -/

theorem takeWhile_append_of_head? (hs : ∀ c ∈ s, p c = true) (ht : ∀ c ∈ t.head?, p c = false) :
    (s ++ t).takeWhile p = s := by
  rw [List.takeWhile_append_of_pos hs]
  cases t with
  | nil => simp
  | cons c rest => rw [List.takeWhile_cons_of_neg (by simp [ht c rfl]), List.append_nil]

theorem dropWhile_append_of_head? (hs : ∀ c ∈ s, p c = true) (ht : ∀ c ∈ t.head?, p c = false) :
    (s ++ t).dropWhile p = t := by
  rw [List.dropWhile_append_of_pos hs]
  cases t with
  | nil => rfl
  | cons c rest => rw [List.dropWhile_cons_of_neg (by simp [ht c rfl])]

theorem eq_false_of_mem_head?_dropWhile (h : c ∈ (s.dropWhile p).head?) : p c = false := by
  have hhead := List.head?_dropWhile_not p s
  rw [Option.mem_def] at h
  rw [h] at hhead
  exact hhead

/-! ## Trimming -/

/-- Nothing but white space is taken off the end. -/
theorem exists_append_trimEnd (s : List Char) :
    ∃ blanks, s = trimEnd s ++ blanks ∧ ∀ c ∈ blanks, isBlank c = true := by
  refine ⟨(s.reverse.takeWhile isBlank).reverse, ?_, fun c hc ↦ ?_⟩
  · rw [trimEnd, ← List.reverse_append, List.takeWhile_append_dropWhile, List.reverse_reverse]
  · exact List.mem_takeWhile_imp (List.mem_reverse.mp hc)

/-- A text that was trimmed does not start with white space. -/
theorem not_isBlank_of_mem_head?_trim (h : c ∈ (trim s).head?) : isBlank c = false := by
  obtain ⟨blanks, hsplit, -⟩ := exists_append_trimEnd (trimStart s)
  refine eq_false_of_mem_head?_dropWhile (s := s) ?_
  rw [trim] at h
  change c ∈ (trimStart s).head?
  rw [hsplit, List.head?_append, Option.mem_def, Option.mem_def.mp h, Option.some_or]

end TableProperties.Text
