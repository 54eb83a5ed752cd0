/-!
# Line ends

Texts use one line end, the line feed. When a text is read from a file, the carriage return, alone
or before a line feed, becomes a line feed.
-/

namespace TableProperties.Text

/-- The text with every line end written as a line feed. -/
def unifyNewlines : List Char → List Char
  | [] => []
  | '\r' :: '\n' :: rest => '\n' :: unifyNewlines rest
  | c :: rest => (if c = '\r' then '\n' else c) :: unifyNewlines rest

/-- A text without carriage returns stays as it is. -/
theorem unifyNewlines_of_not_mem {s : List Char} (h : '\r' ∉ s) : unifyNewlines s = s := by
  induction s with
  | nil => rfl
  | cons c rest ih =>
    have hc : c ≠ '\r' := fun e ↦ h (e ▸ List.mem_cons_self)
    have hrest := ih fun hm ↦ h (List.mem_cons_of_mem _ hm)
    rw [unifyNewlines]
    · simp [hc, hrest]
    · rintro tail rfl -
      exact hc rfl

end TableProperties.Text
