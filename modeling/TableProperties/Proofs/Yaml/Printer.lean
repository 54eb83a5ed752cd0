import TableProperties.Proofs.Yaml.Plain

/-!
# What is written

Whatever the entries are, their text consists of printable ASCII and line feeds, so it is a text
that YAML allows. A key without a mark in front is on one line.

## Main statements

* `isAllowed_of_mem_write`.
* `not_mem_writeScalar`: a text of one line that is not wrapped stays on one line.
-/

namespace TableProperties.Yaml

open Text

variable {c d : Char} {s e : List Char} {wraps quoted isFirst afterEscape : Bool} {column : Nat}
  {before : Option Char}

/-! ## Words -/

/-- What is written without escapes are characters of the text, and line ends with indentations
where the text is wrapped or has line ends of its own. -/
theorem mem_of_mem_writeWords (h : c ∈ writeWords wraps quoted column before s) :
    c ∈ s ∨ c ∈ continuation ∧ (wraps = true ∨ '\n' ∈ s) := by
  induction s generalizing column before with
  | nil => exact absurd h List.not_mem_nil
  | cons d s ih =>
    have hlater {column : Nat} {before : Option Char}
        (h : c ∈ writeWords wraps quoted column before s) :
        c ∈ d :: s ∨ c ∈ continuation ∧ (wraps = true ∨ '\n' ∈ d :: s) := by
      obtain h | ⟨h, hwraps⟩ := ih h
      · exact .inl (List.mem_cons_of_mem d h)
      · exact .inr ⟨h, hwraps.imp_right (List.mem_cons_of_mem d)⟩
    rw [writeWords] at h
    split at h
    · simp only at h
      split at h
      · next hwraps =>
        simp only [Bool.and_eq_true] at hwraps
        obtain h | h := List.mem_append.mp h
        · exact .inr ⟨h, .inl hwraps.1.1⟩
        · exact hlater h
      · obtain rfl | h := List.mem_cons.mp h
        · exact .inl List.mem_cons_self
        · exact hlater h
    · split at h
      · next hbreak =>
        subst hbreak
        obtain h | h := List.mem_append.mp h
        · refine .inr ⟨?_, .inr List.mem_cons_self⟩
          obtain h | h := List.mem_append.mp h
          · split at h <;> simp_all [continuation]
          · split at h <;> simp_all [continuation]
        · exact hlater h
      · split at h
        · obtain rfl | h := List.mem_cons.mp h
          · exact .inl List.mem_cons_self
          · obtain rfl | h := List.mem_cons.mp h
            · exact .inl List.mem_cons_self
            · exact hlater h
        · obtain rfl | h := List.mem_cons.mp h
          · exact .inl List.mem_cons_self
          · exact hlater h

/-! ## Escapes -/

theorem isAsciiText_hexDigitUpper (n : Nat) : isAsciiText (hexDigitUpper n) = true := by
  have hall : ∀ m < 16, isAsciiText (hexDigitUpper m) = true := by decide
  rw [← hexDigitUpper_mod]
  exact hall _ (Nat.mod_lt n (by decide))

theorem isAsciiText_of_escapeLetter? {letter : Char} (h : escapeLetter? c = some letter) :
    isAsciiText letter = true := by
  unfold escapeLetter? at h
  split at h
  all_goals first
    | (rw [Option.some.injEq] at h; subst h; rfl)
    | contradiction

theorem isAsciiText_of_mem_escape? (h : escape? c = some e) (hd : d ∈ e) :
    isAsciiText d = true := by
  have hdigits {letter : Char} {width n : Nat} (hletter : isAsciiText letter = true)
      (hd : d ∈ '\\' :: letter :: fixedHex hexDigitUpper width n) : isAsciiText d = true := by
    obtain rfl | hd := List.mem_cons.mp hd
    · rfl
    · obtain rfl | hd := List.mem_cons.mp hd
      · exact hletter
      · exact forall_mem_fixedHex (P := fun d ↦ isAsciiText d = true) isAsciiText_hexDigitUpper
          width n d hd
  rw [escape?] at h
  cases hletter : escapeLetter? c with
  | some letter =>
    simp only [hletter, Option.some.injEq] at h
    subst h
    obtain rfl | hd := List.mem_cons.mp hd
    · rfl
    · obtain rfl := List.mem_singleton.mp hd
      exact isAsciiText_of_escapeLetter? hletter
  | none =>
    simp only [hletter] at h
    split at h
    · cases h
    · split at h
      · obtain rfl := Option.some.inj h
        exact hdigits rfl hd
      · split at h
        · obtain rfl := Option.some.inj h
          exact hdigits rfl hd
        · obtain rfl := Option.some.inj h
          exact hdigits rfl hd

theorem mem_continuation (h : c ∈ continuation) : isAsciiText c = true ∨ c = '\n' := by
  simp only [continuation, List.mem_cons, List.not_mem_nil, or_false] at h
  rcases h with rfl | rfl | rfl
  · exact .inr rfl
  · exact .inl rfl
  · exact .inl rfl

/-- What is written for the first character, apart from what is written for the rest: the character
or its escape, and a line end with its indentation where the text is wrapped. -/
theorem exists_writeEscaped_cons (wraps : Bool) (column : Nat) (isFirst afterEscape : Bool)
    (c : Char) (s : List Char) :
    ∃ front column' afterEscape',
      writeEscaped wraps column isFirst afterEscape (c :: s)
        = front ++ writeEscaped wraps column' false afterEscape' s ∧
      ∀ d ∈ front, isAsciiText d = true ∨ d = '\n' ∧ wraps = true := by
  have hslash : isAsciiText '\\' = true ∨ '\\' = '\n' ∧ wraps = true := .inl rfl
  have hline (hwraps : wraps = true) :
      ∀ d ∈ continuation, isAsciiText d = true ∨ d = '\n' ∧ wraps = true :=
    fun d hd ↦ (mem_continuation hd).imp_right fun h ↦ ⟨h, hwraps⟩
  rw [writeEscaped]
  simp only
  split
  · next e he =>
    have hescape : ∀ d ∈ e, isAsciiText d = true ∨ d = '\n' ∧ wraps = true :=
      fun d hd ↦ .inl (isAsciiText_of_mem_escape? he hd)
    split
    · next hwraps =>
      simp only [Bool.and_eq_true] at hwraps
      have hline := hline hwraps.1.1.1
      split
      · refine ⟨e ++ '\\' :: continuation ++ ['\\'], continuationColumn + 1, true, by simp, ?_⟩
        simp only [List.forall_mem_append, List.forall_mem_cons]
        exact ⟨⟨hescape, hslash, hline⟩, hslash, List.forall_mem_nil _⟩
      · refine ⟨e ++ '\\' :: continuation, _, _, rfl, ?_⟩
        simp only [List.forall_mem_append, List.forall_mem_cons]
        exact ⟨hescape, hslash, hline⟩
    · exact ⟨e, _, _, rfl, hescape⟩
  · next he =>
    have hc : isAsciiText c = true ∨ c = '\n' ∧ wraps = true := .inl (isAsciiText_of_escape? he).1
    split
    · next hwraps =>
      simp only [Bool.and_eq_true] at hwraps
      have hline := hline hwraps.1.1.1.1
      split
      · refine ⟨'\\' :: continuation ++ ['\\', c], continuationColumn + 2, false, by simp, ?_⟩
        simp only [List.forall_mem_append, List.forall_mem_cons]
        exact ⟨⟨hslash, hline⟩, hslash, hc, List.forall_mem_nil _⟩
      · refine ⟨'\\' :: continuation ++ [c], continuationColumn + 1, false, by simp, ?_⟩
        simp only [List.forall_mem_append, List.forall_mem_cons]
        exact ⟨⟨hslash, hline⟩, hc, List.forall_mem_nil _⟩
    · exact ⟨[c], _, _, rfl, List.forall_mem_singleton.mpr hc⟩

/-- What is written with escapes is printable ASCII, and line ends where it is wrapped. -/
theorem isAsciiText_of_mem_writeEscaped (h : c ∈ writeEscaped wraps column isFirst afterEscape s) :
    isAsciiText c = true ∨ c = '\n' ∧ wraps = true := by
  induction s generalizing column isFirst afterEscape with
  | nil => exact absurd h List.not_mem_nil
  | cons d s ih =>
    obtain ⟨front, column', afterEscape', hwrite, hfront⟩ :=
      exists_writeEscaped_cons wraps column isFirst afterEscape d s
    rw [hwrite] at h
    obtain h | h := List.mem_append.mp h
    · exact hfront c h
    · exact ih h

/-! ## Scalars -/

theorem isPlainText_of_ofText (h : Style.ofText s = .plain) : isPlainText s = true := by
  by_contra hplain
  rw [Style.ofText, if_neg hplain] at h
  split at h <;> contradiction

theorem isSingleText_of_ofText (h : Style.ofText s = .single) : isSingleText s = true := by
  rw [Style.ofText] at h
  split at h
  · contradiction
  · split at h
    · assumption
    · contradiction

/-- Without escapes only texts of printable ASCII and line ends are written. -/
theorem hasSpecial_of_ofText (h : Style.ofText s ≠ .double) : hasSpecial s = false := by
  cases hstyle : Style.ofText s with
  | plain =>
    have hplain := isPlainText_of_ofText hstyle
    simp only [isPlainText, Bool.and_eq_true, Bool.not_eq_true'] at hplain
    exact hplain.1.1.1.1.1.1
  | single =>
    have hsingle := isSingleText_of_ofText hstyle
    simp only [isSingleText, Bool.and_eq_true, Bool.not_eq_true'] at hsingle
    exact hsingle.1
  | double => contradiction

theorem isAsciiText_of_mem_writeScalar (h : c ∈ writeScalar wraps column s) :
    isAsciiText c = true ∨ c = '\n' := by
  have hwords {quoted : Bool} {column : Nat} (hs : Style.ofText s ≠ .double)
      (h : c ∈ writeWords wraps quoted column none s) : isAsciiText c = true ∨ c = '\n' := by
    obtain h | h := mem_of_mem_writeWords h
    · exact isAsciiText_of_hasSpecial (hasSpecial_of_ofText hs) c h
    · exact mem_continuation h.1
  have hquote {d : Char} {written : List Char} (hd : isAsciiText d = true)
      (hwritten : c ∈ written → isAsciiText c = true ∨ c = '\n')
      (h : c ∈ d :: (written ++ [d])) : isAsciiText c = true ∨ c = '\n' := by
    simp only [List.mem_cons, List.mem_append, List.not_mem_nil, or_false] at h
    rcases h with rfl | h | rfl
    · exact .inl hd
    · exact hwritten h
    · exact .inl hd
  cases hstyle : Style.ofText s with
  | plain =>
    rw [writeScalar, hstyle] at h
    exact hwords (by simp [hstyle]) h
  | single =>
    rw [writeScalar, hstyle] at h
    exact hquote rfl (hwords (by simp [hstyle])) h
  | double =>
    rw [writeScalar, hstyle] at h
    exact hquote rfl (fun h ↦ (isAsciiText_of_mem_writeEscaped h).imp_right And.left) h

/-- A text of one line that is not wrapped stays on one line. -/
theorem not_mem_writeScalar (hs : isMultiline s = false) : '\n' ∉ writeScalar false column s := by
  have hbreak : '\n' ∉ s := fun h ↦ List.any_eq_false.mp hs _ h (by decide)
  have hwords {quoted : Bool} {column : Nat} : '\n' ∉ writeWords false quoted column none s := by
    intro h
    obtain h | ⟨-, h | h⟩ := mem_of_mem_writeWords h
    · exact hbreak h
    · contradiction
    · exact hbreak h
  have hescaped {column : Nat} : '\n' ∉ writeEscaped false column true false s := by
    intro h
    obtain h | ⟨-, h⟩ := isAsciiText_of_mem_writeEscaped h
    · contradiction
    · contradiction
  cases hstyle : Style.ofText s with
  | plain => simpa [writeScalar, hstyle] using hwords
  | single => simpa [writeScalar, hstyle] using hwords
  | double => simpa [writeScalar, hstyle] using hescaped

/-! ## Entries -/

theorem isAsciiText_of_mem_writeEntry {key value : List Char} (h : c ∈ writeEntry key value) :
    isAsciiText c = true ∨ c = '\n' := by
  rw [writeEntry] at h
  split at h
  · simp only [List.mem_append, List.mem_cons, List.not_mem_nil, or_false] at h
    rcases h with h | rfl | rfl | h | rfl
    · exact isAsciiText_of_mem_writeScalar h
    · exact .inl rfl
    · exact .inl rfl
    · exact isAsciiText_of_mem_writeScalar h
    · exact .inr rfl
  · simp only [List.mem_append, List.mem_cons, List.not_mem_nil, or_false] at h
    rcases h with rfl | rfl | h | rfl | rfl | rfl | h | rfl
    · exact .inl rfl
    · exact .inl rfl
    · exact isAsciiText_of_mem_writeScalar h
    · exact .inr rfl
    · exact .inl rfl
    · exact .inl rfl
    · exact isAsciiText_of_mem_writeScalar h
    · exact .inr rfl

/-- **What is written is printable ASCII and line feeds**, whatever the entries are. -/
theorem isAsciiText_of_mem_write {entries : List (List Char × List Char)} (h : c ∈ write entries) :
    isAsciiText c = true ∨ c = '\n' := by
  rw [write] at h
  split at h
  · have hempty : "\x7b\x7d\n".toList = ['\x7b', '\x7d', '\n'] := rfl
    simp only [hempty, List.mem_cons, List.not_mem_nil, or_false] at h
    rcases h with rfl | rfl | rfl
    · exact .inl rfl
    · exact .inl rfl
    · exact .inr rfl
  · obtain ⟨e, -, h⟩ := List.mem_flatMap.mp h
    exact isAsciiText_of_mem_writeEntry h

theorem isAllowed_of_mem_write {entries : List (List Char × List Char)} (h : c ∈ write entries) :
    isAllowed c = true := by
  obtain h | rfl := isAsciiText_of_mem_write h
  · rw [isAsciiText_iff] at h
    simp [isAllowed, h]
  · rfl

theorem not_mem_write (entries : List (List Char × List Char)) : '\r' ∉ write entries := by
  intro h
  obtain h | h := isAsciiText_of_mem_write h
  · contradiction
  · contradiction

end TableProperties.Yaml
