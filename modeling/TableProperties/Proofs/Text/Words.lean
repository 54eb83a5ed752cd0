import TableProperties.Proofs.Text.Blank

/-!
# Words

The words of a text are what stands between its white-space characters. A text that does not start
with white space is either empty, or its first word followed by the end or by white space, and then
the words behind it are those of the rest.

## Main statements

* `words_append`: the words of a text whose first word is known.
* `exists_append_of_words_eq_cons`: the text of words that are known.
-/

namespace TableProperties.Text

variable {c : Char} {s t w blanks : List Char} {ws : List (List Char)}

/-- The words of a text. -/
def words (s : List Char) : List (List Char) :=
  (s.splitOnP isBlank).filter fun w ↦ !w.isEmpty

/-- Whether a text is a word. -/
def IsWord (w : List Char) : Prop :=
  w ≠ [] ∧ ∀ c ∈ w, isBlank c = false

/-- Whether a text does not start with white space. -/
def StartsWord (s : List Char) : Prop :=
  ∀ c ∈ s.head?, isBlank c = false

/-- Whether a word ends in front of a text. -/
def EndsWord (s : List Char) : Prop :=
  ∀ c ∈ s.head?, isBlank c = true

theorem startsWord_dropWhile (s : List Char) : StartsWord (s.dropWhile isBlank) :=
  fun _ hc ↦ eq_false_of_mem_head?_dropWhile hc

theorem isEmpty_takeWhile_eq_false_iff :
    (s.takeWhile isBlank).isEmpty = false ↔ s ≠ [] ∧ EndsWord s := by
  cases s with
  | nil => simp
  | cons c rest =>
    by_cases hc : isBlank c = true
    · simp [EndsWord, hc]
    · simp [EndsWord, hc]

/-! ## White space around words -/

@[simp] theorem words_nil : words [] = [] := rfl

theorem words_cons_of_isBlank (h : isBlank c = true) : words (c :: s) = words s := by
  rw [words, List.splitOnP_cons_eq_if_modifyHead, if_pos h]
  rfl

theorem words_append_of_isBlank (h : ∀ c ∈ blanks, isBlank c = true) :
    words (blanks ++ s) = words s := by
  induction blanks with
  | nil => rfl
  | cons c rest ih =>
    rw [List.cons_append, words_cons_of_isBlank (h c List.mem_cons_self)]
    exact ih fun d hd ↦ h d (List.mem_cons_of_mem c hd)

theorem words_dropWhile (s : List Char) : words (s.dropWhile isBlank) = words s := by
  have hblanks : ∀ c ∈ s.takeWhile isBlank, isBlank c = true := fun c hc ↦
    List.mem_takeWhile_imp hc
  rw [← words_append_of_isBlank hblanks, List.takeWhile_append_dropWhile]

theorem words_append_of_isBlank_right (h : ∀ c ∈ blanks, isBlank c = true) :
    words (s ++ blanks) = words s := by
  cases blanks with
  | nil => rw [List.append_nil]
  | cons c rest =>
    -- the first blank ends the text, and behind it there is no word
    have hrest : words rest = [] := by
      rw [← List.append_nil rest]
      exact words_append_of_isBlank fun d hd ↦ h d (List.mem_cons_of_mem c hd)
    rw [words] at hrest
    rw [words, List.splitOnP_append_cons s rest (h c List.mem_cons_self), List.filter_append,
      hrest, List.append_nil, words]

/-- Trimming a text does not change its words. -/
theorem words_trim (s : List Char) : words (trim s) = words s := by
  obtain ⟨blanks, hsplit, hblanks⟩ := exists_append_trimEnd (trimStart s)
  rw [trim, ← words_append_of_isBlank_right hblanks, ← hsplit, trimStart, words_dropWhile]

/-! ## The first word -/

theorem words_append (hw : IsWord w) (hs : EndsWord s) :
    words (w ++ s) = w :: words (s.dropWhile isBlank) := by
  have hne : (!w.isEmpty) = true := by
    rw [Bool.not_eq_true', List.isEmpty_eq_false_iff]
    exact hw.1
  cases s with
  | nil =>
    rw [List.append_nil, words, List.splitOnP_eq_singleton hw.2, List.filter_cons, if_pos hne]
    rfl
  | cons c rest =>
    have hc : isBlank c = true := hs c rfl
    rw [words, List.splitOnP_append_cons_of_forall_mem hw.2 c hc, List.filter_cons, if_pos hne,
      words_dropWhile, words_cons_of_isBlank hc, words]

theorem exists_append_of_startsWord (h : StartsWord s) (hne : s ≠ []) :
    ∃ w t, s = w ++ t ∧ IsWord w ∧ EndsWord t := by
  refine ⟨s.takeWhile (!isBlank ·), s.dropWhile (!isBlank ·),
    List.takeWhile_append_dropWhile.symm, ⟨?_, fun c hc ↦ ?_⟩, fun c hc ↦ ?_⟩
  · obtain ⟨c, rest, rfl⟩ := List.exists_cons_of_ne_nil hne
    rw [List.takeWhile_cons_of_pos (by simp [h c rfl])]
    exact List.cons_ne_nil _ _
  · simpa using List.mem_takeWhile_imp hc
  · simpa using eq_false_of_mem_head?_dropWhile hc

theorem eq_nil_of_words_eq_nil (h : StartsWord s) (hwords : words s = []) : s = [] := by
  by_contra hne
  obtain ⟨w, t, rfl, hw, ht⟩ := exists_append_of_startsWord h hne
  rw [words_append hw ht] at hwords
  exact List.cons_ne_nil _ _ hwords

/-- A text without white space in front starts with its first word, and the other words are those
of the rest. -/
theorem exists_append_of_words_eq_cons (h : StartsWord s) (hwords : words s = w :: ws) :
    ∃ t, s = w ++ t ∧ IsWord w ∧ EndsWord t ∧ words (t.dropWhile isBlank) = ws := by
  have hne : s ≠ [] := by
    rintro rfl
    exact absurd hwords (by simp)
  obtain ⟨w', t, rfl, hw, ht⟩ := exists_append_of_startsWord h hne
  rw [words_append hw ht, List.cons.injEq] at hwords
  obtain ⟨rfl, rfl⟩ := hwords
  exact ⟨t, rfl, hw, ht, rfl⟩

end TableProperties.Text
