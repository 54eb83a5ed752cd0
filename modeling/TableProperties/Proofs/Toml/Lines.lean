import TableProperties.Proofs.Text.Surrogate
import TableProperties.Toml.Lines
import TableProperties.Toml.Printer

/-!
# The lines of a written table

A table of plain strings under plain keys is written one entry a line. The first pass over this text
changes nothing, so that the entries are its lines.

A quote is judged by what stands in front of it, at the start of the text by what stands at its end.
In front of the quotes that open a key or a value stands a line end or a space, and in front of those
that close one stands a plain character or a single quote, so that none is one of three. All other
characters that mean something to the pass (equals signs, brackets, comment signs) can occur between
the quotes of a value only.

## Main statements

* `writeEntry_of_isPlain`: how an entry is written.
* `Scan.run_writeEntry`: the pass over an entry.
* `logicalLines_write`: the lines of a table.
-/

namespace TableProperties.Toml

open Text

/-! ## Plain keys and values -/

/-- A character that stands for itself wherever it stands in a string: it is printable, and it is no
quote and no backslash. -/
def IsPlain (c : Char) : Prop :=
  0x20 ≤ c.toNat ∧ c.toNat < 0x7f ∧ c ≠ '"' ∧ c ≠ '\'' ∧ c ≠ '\\'

/-- A character of plain keys: that of a bare key, or a dot. -/
def IsKeyChar (c : Char) : Prop :=
  isBareChar c = true ∨ c = '.'

/-- An entry of plain characters whose key is not empty. -/
structure IsPlainEntry (key value : List Char) : Prop where
  key_ne_nil : key ≠ []
  key_chars : ∀ c ∈ key, IsKeyChar c
  value_chars : ∀ c ∈ value, IsPlain c

instance (c : Char) : Decidable (IsPlain c) := inferInstanceAs (Decidable (_ ∧ _))

instance (c : Char) : Decidable (IsKeyChar c) := inferInstanceAs (Decidable (_ ∨ _))

instance (key value : List Char) : Decidable (IsPlainEntry key value) :=
  decidable_of_iff (key ≠ [] ∧ key.all (IsKeyChar ·) = true ∧ value.all (IsPlain ·) = true)
    ⟨fun ⟨h, hk, hv⟩ ↦ ⟨h, by simpa using hk, by simpa using hv⟩,
      fun ⟨h, hk, hv⟩ ↦ ⟨h, by simpa using hk, by simpa using hv⟩⟩

variable {c : Char} {s key value passed rest : List Char}

theorem IsKeyChar.toNat_mem (h : IsKeyChar c) :
    (0x30 ≤ c.toNat ∧ c.toNat ≤ 0x39) ∨ (0x41 ≤ c.toNat ∧ c.toNat ≤ 0x5a) ∨
      (0x61 ≤ c.toNat ∧ c.toNat ≤ 0x7a) ∨ c = '_' ∨ c = '-' ∨ c = '.' := by
  rcases h with h | rfl
  · rw [isBareChar, Bool.or_eq_true, Bool.or_eq_true, beq_iff_eq, beq_iff_eq] at h
    rcases h with (h | h) | h
    · exact (isAlphanum_cases h).imp_right (.imp_right .inl)
    · exact .inr (.inr (.inr (.inl h)))
    · exact .inr (.inr (.inr (.inr (.inl h))))
  · exact .inr (.inr (.inr (.inr (.inr rfl))))

theorem IsKeyChar.isPlain (h : IsKeyChar c) : IsPlain c := by
  have hrange := h.toNat_mem
  refine ⟨?_, ?_, ?_, ?_, ?_⟩
  · rcases hrange with h | h | h | rfl | rfl | rfl <;> first | omega | decide
  · rcases hrange with h | h | h | rfl | rfl | rfl <;> first | omega | decide
  all_goals
    rintro rfl
    revert h
    decide

theorem IsPlain.isPrintable (h : IsPlain c) : isPrintable c = true := by
  rw [isPrintable_of_ascii h.2.1]
  exact decide_eq_true h.1

theorem IsKeyChar.ne {d : Char} (h : IsKeyChar c) (hd : ¬ IsKeyChar d) : c ≠ d :=
  fun e ↦ hd (e ▸ h)

/-- No character that is not plain occurs in a plain text. -/
theorem IsPlain.ne {d : Char} (h : IsPlain c) (hd : ¬ IsPlain d) : c ≠ d :=
  fun e ↦ hd (e ▸ h)

/-- Of the plain characters only the space is white space. -/
theorem IsPlain.isBlank_eq_false (h : IsPlain c) (hspace : c ≠ ' ') : isBlank c = false := by
  have hleast : c.toNat ≠ 0x20 := fun e ↦ hspace (Char.toNat_inj.mp e)
  obtain ⟨hlow, hhigh, -⟩ := h
  simp only [isBlank, Bool.or_eq_false_iff, Bool.and_eq_false_iff, decide_eq_false_iff_not,
    beq_eq_false_iff_ne]
  omega

theorem IsKeyChar.isBlank_eq_false (h : IsKeyChar c) : isBlank c = false :=
  h.isPlain.isBlank_eq_false (h.ne (by decide))

/-! ## Written entries -/

/-- A text between double quotes. -/
def quoted (s : List Char) : List Char :=
  '"' :: (s ++ ['"'])

/-- The line of an entry. -/
def entryLine (key value : List Char) : List Char :=
  writeKey key ++ ' ' :: '=' :: ' ' :: quoted value

theorem writeChar_of_isPlain (h : IsPlain c) : writeChar c = [c] := by
  have hspecial : ¬ (c = '"' ∨ c = '\\') := not_or.mpr ⟨h.2.2.1, h.2.2.2.2⟩
  rw [writeChar, if_neg hspecial, if_neg (h.ne (by decide)), if_neg (h.ne (by decide)),
    if_neg (h.ne (by decide)), if_pos h.isPrintable]

theorem writeString_of_isPlain (h : ∀ c ∈ s, IsPlain c) : writeString s = quoted s := by
  have hflat : s.flatMap writeChar = s := by
    induction s with
    | nil => rfl
    | cons c s ih =>
      rw [List.flatMap_cons, writeChar_of_isPlain (h c List.mem_cons_self),
        ih fun d hd ↦ h d (List.mem_cons_of_mem c hd)]
      rfl
  rw [writeString, hflat, quoted]

theorem write_cons (e : List Char × List Char) (rest : List (List Char × List Char)) :
    write (e :: rest) = writeEntry e.1 e.2 ++ write rest :=
  List.flatMap_cons

theorem getLast?_writeEntry (key value : List Char) :
    (writeEntry key value).getLast? = some '\n' := by
  rw [writeEntry, List.getLast?_append, List.getLast?_cons, List.getLast?_cons, List.getLast?_cons,
    List.getLast?_concat]
  rfl

/-- A table with entries ends in a line end. -/
theorem getLast?_write {entries : List (List Char × List Char)} (h : entries ≠ []) :
    (write entries).getLast? = some '\n' := by
  induction entries with
  | nil => contradiction
  | cons e rest ih =>
    rw [write_cons, List.getLast?_append, getLast?_writeEntry]
    cases rest with
    | nil => rfl
    | cons d rest => rw [ih (List.cons_ne_nil d rest), Option.some_or]

namespace IsPlainEntry

variable (h : IsPlainEntry key value)

include h

theorem isBareKey_iff : isBareKey key = true ↔ '.' ∉ key := by
  have hlast : key.getLast? ≠ some '\n' := fun hend ↦
    absurd (h.key_chars _ (List.mem_of_getLast? hend)) (by decide)
  rw [isBareKey, if_neg hlast, Bool.and_eq_true, List.all_eq_true]
  constructor
  · rintro ⟨-, hall⟩ hdot
    exact absurd (hall _ hdot) (by decide)
  · intro hdot
    refine ⟨by simpa using h.key_ne_nil, fun c hc ↦ (h.key_chars c hc).resolve_right ?_⟩
    rintro rfl
    exact hdot hc

/-- A key without a dot is bare. -/
theorem writeKey_of_not_mem (hdot : '.' ∉ key) : writeKey key = key := by
  rw [writeKey, if_pos (h.isBareKey_iff.mpr hdot)]

/-- A key with a dot is quoted. -/
theorem writeKey_of_mem (hdot : '.' ∈ key) : writeKey key = quoted key := by
  rw [writeKey, if_neg (fun hbare ↦ h.isBareKey_iff.mp hbare hdot),
    writeString_of_isPlain fun c hc ↦ (h.key_chars c hc).isPlain]

theorem writeEntry_eq : writeEntry key value = entryLine key value ++ ['\n'] := by
  rw [writeEntry, writeString_of_isPlain h.value_chars, entryLine, List.append_assoc]
  rfl

/-- Neither a line end nor a carriage return is written within an entry. -/
theorem isPlain_or_eq_quote_of_mem (hc : c ∈ entryLine key value) : IsPlain c ∨ c = '"' := by
  have hquoted {s : List Char} (hs : ∀ c ∈ s, IsPlain c) (hc : c ∈ quoted s) :
      IsPlain c ∨ c = '"' := by
    rw [quoted, List.mem_cons, List.mem_append, List.mem_singleton] at hc
    rcases hc with hc | hc | hc
    · exact .inr hc
    · exact .inl (hs c hc)
    · exact .inr hc
  have hkey : ∀ c ∈ key, IsPlain c := fun c hc ↦ (h.key_chars c hc).isPlain
  rw [entryLine, List.mem_append, List.mem_cons, List.mem_cons, List.mem_cons] at hc
  rcases hc with hc | rfl | rfl | rfl | hc
  · by_cases hdot : '.' ∈ key
    · rw [h.writeKey_of_mem hdot] at hc
      exact hquoted hkey hc
    · rw [h.writeKey_of_not_mem hdot] at hc
      exact .inl (hkey c hc)
  · exact .inl (by decide)
  · exact .inl (by decide)
  · exact .inl (by decide)
  · exact hquoted h.value_chars hc

end IsPlainEntry

/-! ## The pass over an entry -/

namespace Scan

variable {p : List Char}

/-- What a quote does behind a character that is neither the same quote nor a backslash: it opens or
closes a string. -/
theorem quoteChar_of_head? {x : Scan} {d : Char}
    (h : (x.passed ++ ('"' :: rest).reverse).head? = some d) (hquote : d ≠ '"')
    (hslash : d ≠ '\\') :
    x.quoteChar '"' rest = { x with quote := if x.quote.isSome then none else some '"' } := by
  obtain ⟨ring, hring⟩ : ∃ ring, x.passed ++ ('"' :: rest).reverse = d :: ring := by
    cases hx : x.passed ++ ('"' :: rest).reverse with
    | nil => rw [hx] at h; contradiction
    | cons e ring =>
      rw [hx, List.head?_cons, Option.some.injEq] at h
      exact ⟨ring, by rw [h]⟩
  have hbefore : quotesBefore '"' (d :: ring) = (0, d :: ring) := by
    cases ring with
    | nil => rw [quotesBefore, if_neg hquote]
    | cons e ring => rw [quotesBefore, if_neg hquote]
  have hescapes : escapesNext (d :: ring) = false := by
    have hd : (d == '\\') = false := beq_eq_false_iff_ne.mpr hslash
    rw [escapesNext, List.takeWhile_cons_of_neg (by simpa using hslash)]
    rfl
  rw [quoteChar, hring, hbefore]
  simp [hescapes]

/-- What a quote does behind one quote: it closes the empty string. -/
theorem quoteChar_of_passed {x : Scan} {d : Char} (h : x.passed = '"' :: d :: p) (hd : d ≠ '"') :
    x.quoteChar '"' rest = { x with quote := if x.quote.isSome then none else some '"' } := by
  have hbefore : ∀ ring, quotesBefore '"' ('"' :: d :: ring) = (1, d :: ring) := by
    intro ring
    rw [quotesBefore, if_pos rfl, if_neg hd]
  rw [quoteChar, h, List.cons_append, List.cons_append, hbefore]
  simp

theorem step_quote {x : Scan} (h : x.quote ≠ some '\'') :
    x.step '"' rest = (x.quoteChar '"' rest).endChar '"' := by
  simp [step, h]

/-- Between double quotes brackets and single quotes mean nothing. -/
theorem step_eq_endChar {x : Scan} (hquote : c ≠ '"') (hend : c ≠ '\n')
    (h : x.quote = some '"' ∨ (c ≠ '\'' ∧ c ≠ '[' ∧ c ≠ ']')) :
    x.step c rest = x.endChar c := by
  rcases h with hopen | ⟨hsingle, hopening, hclosing⟩
  · simp [step, hquote, hend, hopen]
  · simp [step, hquote, hend, hsingle, hopening, hclosing]

/-! ### Keys -/

/-- The pass over the characters of a bare key behind the first one. -/
theorem run_bareChars (h : ∀ c ∈ s, isBareChar c = true) :
    run { passed := p, key := .inside, lineStart := false } false (s ++ rest)
      = run { passed := s.reverse ++ p, key := .inside, lineStart := false } false rest := by
  induction s generalizing p with
  | nil => rfl
  | cons c s ih =>
    have hbare := h c List.mem_cons_self
    have hc : IsKeyChar c := .inl hbare
    have hletter : (isAlphanumeric c || c == '_' || c == '-') = true := by
      rw [isAlphanumeric_of_ascii (by have := hc.isPlain.2.1; omega)]
      exact hbare
    have hdot : c ≠ '.' := by
      rintro rfl
      exact absurd hbare (by decide)
    have hstep : keyChar { passed := p, key := .inside, lineStart := false } c (s ++ rest)
        = .ok { passed := p, key := .inside, lineStart := false } := by
      simp only [keyChar, hc.isBlank_eq_false, Bool.false_eq_true, if_false, if_neg hdot, hletter,
        if_true]
    have hend : c ≠ '\n' := hc.ne (by decide)
    have hsign : c ≠ '=' := hc.ne (by decide)
    rw [List.cons_append, run]
    simp only [Bool.false_and, Bool.false_eq_true, if_false, reduceCtorEq, if_neg hend, hsign,
      false_and, hstep]
    rw [List.reverse_cons, List.append_assoc]
    exact ih fun d hd ↦ h d (List.mem_cons_of_mem c hd)

/-- The pass over the characters of a quoted key. -/
theorem run_quotedChars (h : ∀ c ∈ s, c ≠ '"' ∧ c ≠ '\n') :
    run { passed := p, key := .inside, quote := some '"', lineStart := false } false (s ++ rest)
      = run { passed := s.reverse ++ p, key := .inside, quote := some '"', lineStart := false } false
          rest := by
  induction s generalizing p with
  | nil => rfl
  | cons c s ih =>
    obtain ⟨hquote, hend⟩ := h c List.mem_cons_self
    rw [List.cons_append, run]
    simp only [Bool.false_and, Bool.false_eq_true, if_false, reduceCtorEq, if_neg hend, and_false,
      keyChar, hquote, false_and]
    rw [List.reverse_cons, List.append_assoc]
    exact ih fun d hd ↦ h d (List.mem_cons_of_mem c hd)

/-- What stands between a bare key and the value. -/
theorem run_signAfterBare :
    run { passed := p, key := .inside, lineStart := false } false (' ' :: '=' :: ' ' :: rest)
      = run { passed := ' ' :: '=' :: ' ' :: p, lineStart := false } false rest := by
  rfl

/-- What stands between a quoted key and the value. -/
theorem run_signAfterQuoted :
    run { passed := p, key := .behind, lineStart := false } false (' ' :: '=' :: ' ' :: rest)
      = run { passed := ' ' :: '=' :: ' ' :: p, lineStart := false } false rest := by
  rfl

theorem run_bareKey (hne : key ≠ []) (h : ∀ c ∈ key, isBareChar c = true) :
    run { passed := p } false (key ++ ' ' :: '=' :: ' ' :: rest)
      = run { passed := ' ' :: '=' :: ' ' :: (key.reverse ++ p), lineStart := false } false rest := by
  obtain ⟨c, s, rfl⟩ := List.exists_cons_of_ne_nil hne
  have hc : IsKeyChar c := .inl (h c List.mem_cons_self)
  have hcomment : startsComment { passed := p } c = false := by
    rw [startsComment, beq_eq_false_iff_ne.mpr (hc.ne (d := '#') (by decide))]
    rfl
  have hstart : step { passed := p } c (s ++ ' ' :: '=' :: ' ' :: rest)
      = .ok { passed := c :: p, key := .inside, lineStart := false } := by
    rw [step_eq_endChar (hc.ne (by decide)) (hc.ne (by decide))
        (.inr ⟨hc.ne (by decide), hc.ne (by decide), hc.ne (by decide)⟩),
      endChar, if_pos ⟨rfl, hc.ne (by decide), hc.ne (by decide)⟩, if_neg (by simp),
      if_neg (hc.ne (by decide))]
    rfl
  rw [List.cons_append, run, if_neg (by simp), if_pos rfl, hcomment, hstart]
  refine (run_bareChars (p := c :: p) fun d hd ↦ h d (List.mem_cons_of_mem c hd)).trans ?_
  rw [run_signAfterBare, List.reverse_cons, List.append_assoc]
  rfl

/-- A quoted key at the start of a line. In front of it stands a line end, if need be the one at the
end of the text. -/
theorem run_quotedKey (hne : key ≠ []) (h : ∀ c ∈ key, IsPlain c)
    (hring : (p ++ (quoted key ++ ' ' :: '=' :: ' ' :: rest).reverse).head? = some '\n') :
    run { passed := p } false (quoted key ++ ' ' :: '=' :: ' ' :: rest)
      = run { passed := ' ' :: '=' :: ' ' :: ((quoted key).reverse ++ p), lineStart := false } false
          rest := by
  have hopen : step { passed := p } '"' (key ++ ['"'] ++ ' ' :: '=' :: ' ' :: rest)
      = .ok { passed := '"' :: p, key := .inside, quote := some '"', lineStart := false } := by
    rw [step_quote (by simp), quoteChar_of_head? hring (by decide) (by decide)]
    rfl
  have hclose : keyChar
        { passed := key.reverse ++ '"' :: p, key := .inside, quote := some '"', lineStart := false }
        '"' (' ' :: '=' :: ' ' :: rest)
      = .ok { passed := key.reverse ++ '"' :: p, key := .behind, lineStart := false } := by
    have hlast := (h _ (List.getLast_mem hne)).ne (d := '\\') (by decide)
    have hescapes : escapesNext (key.reverse ++ '"' :: p) = false := by
      rw [← List.dropLast_concat_getLast hne, List.reverse_append, List.reverse_singleton,
        List.append_assoc, List.singleton_append, escapesNext,
        List.takeWhile_cons_of_neg (by simpa using hlast)]
      rfl
    simp [keyChar, hescapes]
  have hplain : ∀ c ∈ key, c ≠ '"' ∧ c ≠ '\n' := fun c hc ↦
    ⟨(h c hc).ne (by decide), (h c hc).ne (by decide)⟩
  rw [quoted, List.cons_append, run, if_neg (by simp), if_pos rfl, if_neg (by simp [startsComment]),
    hopen, List.append_assoc, List.singleton_append]
  refine (run_quotedChars hplain).trans ?_
  rw [run, if_neg (by simp), if_neg (by simp), if_neg (by decide), if_neg (by simp), hclose]
  refine run_signAfterQuoted.trans ?_
  rw [List.reverse_cons, List.reverse_append, List.append_assoc]
  rfl

/-! ### Values -/

/-- The pass over the characters of a value. -/
theorem run_valueChars (h : ∀ c ∈ s, c ≠ '"' ∧ c ≠ '\n') :
    run { passed := p, quote := some '"', lineStart := false } false (s ++ rest)
      = run { passed := s.reverse ++ p, quote := some '"', lineStart := false } false rest := by
  induction s generalizing p with
  | nil => rfl
  | cons c s ih =>
    obtain ⟨hquote, hend⟩ := h c List.mem_cons_self
    rw [List.cons_append, run, if_neg (by simp), if_pos rfl, if_neg (by simp [startsComment]),
      step_eq_endChar hquote hend (.inl rfl), endChar, if_neg (by simp), List.reverse_cons,
      List.append_assoc]
    exact ih fun d hd ↦ h d (List.mem_cons_of_mem c hd)

/-- A value behind a space, which ends its line. -/
theorem run_value (h : ∀ c ∈ value, IsPlain c) :
    run { passed := ' ' :: p, lineStart := false } false (quoted value ++ '\n' :: rest)
      = run { passed := '\n' :: ((quoted value).reverse ++ ' ' :: p) } false rest := by
  have hopen : step { passed := ' ' :: p, lineStart := false } '"' (value ++ ['"'] ++ '\n' :: rest)
      = .ok { passed := '"' :: ' ' :: p, quote := some '"', lineStart := false } := by
    rw [step_quote (by simp), quoteChar_of_head? (d := ' ') rfl (by decide) (by decide)]
    rfl
  have hclose : step
        { passed := value.reverse ++ '"' :: ' ' :: p, quote := some '"', lineStart := false }
        '"' ('\n' :: rest)
      = .ok { passed := '"' :: (value.reverse ++ '"' :: ' ' :: p), lineStart := false } := by
    rw [step_quote (by simp)]
    cases hvalue : value.reverse with
    | nil => rw [quoteChar_of_passed (p := p) (d := ' ') rfl (by decide)]; rfl
    | cons d s =>
      have hd : IsPlain d := h d (by rw [← List.mem_reverse, hvalue]; exact List.mem_cons_self)
      rw [quoteChar_of_head? (d := d) rfl (hd.ne (by decide)) (hd.ne (by decide))]
      rfl
  have hplain : ∀ c ∈ value, c ≠ '"' ∧ c ≠ '\n' := fun c hc ↦
    ⟨(h c hc).ne (by decide), (h c hc).ne (by decide)⟩
  rw [quoted, List.cons_append, run, if_neg (by simp), if_pos rfl, if_neg (by simp [startsComment]),
    hopen, List.append_assoc, List.singleton_append]
  refine (run_valueChars hplain).trans ?_
  rw [run, if_neg (by simp), if_pos rfl, if_neg (by simp [startsComment]), hclose,
    List.reverse_cons, List.reverse_append, List.append_assoc]
  rfl

/-! ### Tables -/

/-- The pass over an entry leaves it as it is. -/
theorem run_writeEntry (h : IsPlainEntry key value)
    (hring : (p ++ (writeEntry key value ++ rest).reverse).head? = some '\n') :
    run { passed := p } false (writeEntry key value ++ rest)
      = run { passed := (writeEntry key value).reverse ++ p } false rest := by
  have hsplit : writeEntry key value ++ rest
      = writeKey key ++ ' ' :: '=' :: ' ' :: (quoted value ++ '\n' :: rest) := by
    rw [h.writeEntry_eq, entryLine]
    simp
  have hreverse : (writeEntry key value).reverse ++ p
      = '\n' :: ((quoted value).reverse ++ ' ' :: '=' :: ' ' :: ((writeKey key).reverse ++ p)) := by
    rw [h.writeEntry_eq, entryLine]
    simp
  rw [hsplit] at hring ⊢
  rw [hreverse]
  by_cases hdot : '.' ∈ key
  · rw [h.writeKey_of_mem hdot] at hring ⊢
    exact (run_quotedKey h.key_ne_nil (fun c hc ↦ (h.key_chars c hc).isPlain) hring).trans
      (run_value h.value_chars)
  · rw [h.writeKey_of_not_mem hdot]
    have hbare : ∀ c ∈ key, isBareChar c = true := fun c hc ↦
      (h.key_chars c hc).resolve_right fun e ↦ hdot (e ▸ hc)
    exact (run_bareKey h.key_ne_nil hbare).trans (run_value h.value_chars)

/-- The pass over a table, at the start of a text or behind a line end, leaves it as it is. -/
theorem run_write {entries : List (List Char × List Char)}
    (h : ∀ e ∈ entries, IsPlainEntry e.1 e.2) (hp : p = [] ∨ p.head? = some '\n') :
    run { passed := p } false (write entries) = .ok { passed := (write entries).reverse ++ p } := by
  induction entries generalizing p with
  | nil => rfl
  | cons e rest ih =>
    have he := h e List.mem_cons_self
    have hring : (p ++ (write (e :: rest)).reverse).head? = some '\n' := by
      rw [List.head?_append, List.head?_reverse, getLast?_write (List.cons_ne_nil e rest)]
      rcases hp with rfl | hp
      · rfl
      · rw [hp]
        rfl
    have hnext : ((writeEntry e.1 e.2).reverse ++ p).head? = some '\n' := by
      rw [he.writeEntry_eq, List.reverse_append]
      rfl
    rw [write_cons] at hring ⊢
    rw [run_writeEntry he hring, ih (fun d hd ↦ h d (List.mem_cons_of_mem e hd)) (.inr hnext),
      List.reverse_append, List.append_assoc]

end Scan

theorem splitOn_write {entries : List (List Char × List Char)}
    (h : ∀ e ∈ entries, IsPlainEntry e.1 e.2) :
    (write entries).splitOn '\n' = entries.map (fun e ↦ entryLine e.1 e.2) ++ [[]] := by
  induction entries with
  | nil => rfl
  | cons e rest ih =>
    have he := h e List.mem_cons_self
    have hend : '\n' ∉ entryLine e.1 e.2 := fun hmem ↦
      absurd (he.isPlain_or_eq_quote_of_mem hmem) (by decide)
    have hwrite : write (e :: rest) = entryLine e.1 e.2 ++ '\n' :: write rest := by
      rw [write_cons, he.writeEntry_eq, List.append_assoc]
      rfl
    rw [hwrite, List.splitOn_append_cons_self_of_not_mem hend,
      ih fun d hd ↦ h d (List.mem_cons_of_mem e hd)]
    rfl

/-- No carriage return is written. -/
theorem not_mem_write {entries : List (List Char × List Char)}
    (h : ∀ e ∈ entries, IsPlainEntry e.1 e.2) : '\r' ∉ write entries := by
  intro hmem
  obtain ⟨e, he, hentry⟩ := List.mem_flatMap.mp hmem
  have hline : '\r' ∈ entryLine e.1 e.2 ++ ['\n'] := (h e he).writeEntry_eq ▸ hentry
  rcases List.mem_append.mp hline with hmem | hmem
  · exact absurd ((h e he).isPlain_or_eq_quote_of_mem hmem) (by decide)
  · exact absurd hmem (by decide)

/-- The lines of a written table are its entries, and an empty one behind the last line end. -/
theorem logicalLines_write {entries : List (List Char × List Char)}
    (h : ∀ e ∈ entries, IsPlainEntry e.1 e.2) :
    logicalLines (write entries) = .ok (entries.map (fun e ↦ entryLine e.1 e.2) ++ [[]]) := by
  have hrun := Scan.run_write (p := []) h (.inl rfl)
  have hpass : Scan.run {} false (write entries) = .ok { passed := (write entries).reverse } := by
    rw [← List.append_nil (write entries).reverse]
    exact hrun
  rw [logicalLines, hpass]
  simp [splitOn_write h]

end TableProperties.Toml
