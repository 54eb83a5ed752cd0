import TableProperties.Proofs.Text.Surrogate
import TableProperties.Yaml.Printer
import TableProperties.Yaml.Text.Quoted

/-!
# Written quotes are read back

What is written between quotes is read as the text that was written, wherever its lines are wrapped.
The reader holds back white space and line ends until it is clear what they stand for, so the
statements are about all states in which it can be in front of what is still to be written: reading
the rest then gives what is held back and the rest of the text.

## Main statements

* `readQuoted_writeEscaped`: between double quotes every text can be written.
* `readQuoted_writeWords`: between single quotes those can that have no spaces next to line ends.
-/

namespace TableProperties.Yaml

open Text

variable {c d : Char} {s t text rest : List Char} {double wraps : Bool} {column : Nat}
  {state next : QuotedState}

/-! ## Characters -/

theorem isAsciiText_iff : isAsciiText c = true ↔ 0x20 ≤ c.toNat ∧ c.toNat ≤ 0x7e := by
  simp [isAsciiText]

/-- Of the printable characters of ASCII only the space is white space. -/
theorem isGapOrBreak_eq_false (h : isAsciiText c = true) (hspace : c ≠ ' ') :
    isGapOrBreak c = false := by
  have hne {d : Char} (hd : isAsciiText d = false) : c ≠ d := by
    rintro rfl
    rw [h] at hd
    contradiction
  simp [isGapOrBreak, isGap, isBreak, hspace, hne (d := '\t') (by decide),
    hne (d := '\n') (by decide), hne (d := '\r') (by decide), hne (d := '\u0085') (by decide),
    hne (d := '\u2028') (by decide), hne (d := '\u2029') (by decide)]

theorem atDocumentMarker_cons (hdash : c ≠ '-') (hstop : c ≠ '.') :
    atDocumentMarker (c :: s) = false := by
  match s with
  | [] => rfl
  | [_] => rfl
  | _ :: _ :: _ => simp [atDocumentMarker, hdash, hstop]

/-! ## Steps of the reader -/

/-- The states outside escapes. -/
def QuotedState.IsResting : QuotedState → Prop
  | .open | .gap _ | .folded .. | .joined _ => True
  | _ => False

theorem readQuotedFrom_of_next (h : state.IsResting)
    (hstep : quotedStep double state c t = .ok (.next text next))
    (hrest : readQuotedFrom double next t = .ok (s, rest)) :
    readQuotedFrom double state (c :: t) = .ok (text ++ s, rest) := by
  cases state with
  | twin | escape | hex left value => exact h.elim
  | «open» | gap seen | folded first more | joined more =>
    simp only [readQuotedFrom, hstep, hrest, Except.map]

/-- A character that is no white space releases what was held back. -/
theorem readQuotedFrom_char (h : state.IsResting) (hgap : isGapOrBreak c = false)
    (hchar : quotedChar double c t = .next text next)
    (hrest : readQuotedFrom double next t = .ok (s, rest)) :
    readQuotedFrom double state (c :: t) = .ok (state.pending ++ (text ++ s), rest) := by
  rw [isGapOrBreak, Bool.or_eq_false_iff] at hgap
  have hstep : quotedStep double state c t = .ok (.next (state.pending ++ text) next) := by
    unfold quotedStep
    rw [if_neg (by simp [hgap.2]), if_neg (by simp [hgap.1]), hchar]
  rw [← List.append_assoc]
  exact readQuotedFrom_of_next h hstep hrest

/-- The quote at the end. -/
theorem readQuotedFrom_done (h : state.IsResting) (hgap : isGapOrBreak c = false)
    (hchar : quotedChar double c rest = .done) :
    readQuotedFrom double state (c :: rest) = .ok (state.pending, rest) := by
  rw [isGapOrBreak, Bool.or_eq_false_iff] at hgap
  have hstep : quotedStep double state c rest = .ok .done := by
    unfold quotedStep
    rw [if_neg (by simp [hgap.2]), if_neg (by simp [hgap.1]), hchar]
  cases state with
  | twin | escape | hex left value => exact h.elim
  | «open» | gap seen | folded first more | joined more => simp only [readQuotedFrom, hstep]

/-- A space is held back. -/
theorem readQuotedFrom_space (h : state = .open ∨ ∃ seen, state = .gap seen)
    (hrest : ∀ seen, readQuotedFrom double (.gap seen) t = .ok (seen.reverse ++ s, rest)) :
    readQuotedFrom double state (' ' :: t) = .ok (state.pending ++ ' ' :: s, rest) := by
  obtain rfl | ⟨seen, rfl⟩ := h
  · have hstep : quotedStep double .open ' ' t = .ok (.next [] (.gap [' '])) := rfl
    exact readQuotedFrom_of_next trivial hstep (hrest _)
  · have hstep : quotedStep double (.gap seen) ' ' t = .ok (.next [] (.gap (' ' :: seen))) := rfl
    have hresting : (QuotedState.gap seen).IsResting := trivial
    have hread := readQuotedFrom_of_next hresting hstep (hrest (' ' :: seen))
    rw [List.reverse_cons, List.append_assoc] at hread
    exact hread

/-! ## Escapes -/

theorem readQuotedFrom_backslash (h : state.IsResting)
    (hrest : readQuotedFrom true .escape t = .ok (s, rest)) :
    readQuotedFrom true state ('\\' :: t) = .ok (state.pending ++ s, rest) := by
  have hchar : quotedChar true '\\' t = .next [] .escape := rfl
  exact readQuotedFrom_char h rfl hchar hrest

theorem readQuotedFrom_letter (hletter : shortEscape? d = some c)
    (hrest : readQuotedFrom true .open t = .ok (s, rest)) :
    readQuotedFrom true .escape (d :: t) = .ok (c :: s, rest) := by
  simp only [readQuotedFrom, escapeStep, hletter, hrest, Except.map, List.singleton_append]

/-- The digits of a code point. -/
theorem readQuotedFrom_digits {digits : List Char} {value n : Nat} (hne : digits ≠ [])
    (hvalue : digits.foldlM (fun n c ↦ (hexValue? c).map (16 * n + ·)) value = some n)
    (hn : n < 0x110000) (hrest : readQuotedFrom true .open t = .ok (s, rest)) :
    readQuotedFrom true (.hex digits.length value) (digits ++ t)
      = .ok (ofCodePoint n :: s, rest) := by
  induction digits generalizing value with
  | nil => contradiction
  | cons d digits ih =>
    rw [List.foldlM_cons] at hvalue
    obtain ⟨v, hv, hvalue⟩ := Option.bind_eq_some_iff.mp hvalue
    obtain ⟨k, hk, rfl⟩ := Option.map_eq_some_iff.mp hv
    rw [List.cons_append, List.length_cons, readQuotedFrom]
    cases digits with
    | nil =>
      obtain rfl : 16 * value + k = n := Option.some.inj hvalue
      have hcode : ofEscaped (16 * value + k) = .ok (ofCodePoint (16 * value + k)) :=
        if_neg (Nat.not_le.mpr hn)
      simp only [hexStep, hk, List.length_nil, Nat.zero_add, Nat.le_refl, if_true, hcode,
        Except.map, List.nil_append, hrest, List.singleton_append]
    | cons e digits =>
      have hmore : ¬ (e :: digits).length + 1 ≤ 1 := by simp
      have hread := ih (List.cons_ne_nil e digits) hvalue
      simp only [hexStep, hk, hmore, if_false, Nat.add_sub_cancel, hread, Except.map,
        List.nil_append]

theorem shortEscape?_of_escapeLetter? {letter : Char} (h : escapeLetter? c = some letter) :
    shortEscape? letter = some c := by
  unfold escapeLetter? at h
  split at h
  all_goals first
    | (rw [Option.some.injEq] at h; subst h; rfl)
    | contradiction

/-- An escape is read as the character for which it was written. -/
theorem readQuotedFrom_escape {e : List Char} (h : state.IsResting) (he : escape? c = some e)
    (hrest : readQuotedFrom true .open t = .ok (s, rest)) :
    readQuotedFrom true state (e ++ t) = .ok (state.pending ++ c :: s, rest) := by
  have hdigits {width : Nat} {d : Char} (hlength : hexLength? d = some width)
      (hletter : shortEscape? d = none) (hpos : width ≠ 0) (hn : codePoint c < 16 ^ width) :
      readQuotedFrom true state
        (('\\' :: d :: fixedHex hexDigitUpper width (codePoint c)) ++ t)
          = .ok (state.pending ++ c :: s, rest) := by
    have hvalue := hexValueOf?_fixedHex hexValue?_hexDigitUpper width (codePoint c)
    rw [Nat.mod_eq_of_lt hn] at hvalue
    have hne : fixedHex hexDigitUpper width (codePoint c) ≠ [] := by
      rw [← List.length_pos_iff, length_fixedHex]
      exact Nat.pos_of_ne_zero hpos
    have hread := readQuotedFrom_digits hne hvalue (codePoint_lt c) hrest
    rw [length_fixedHex, ofCodePoint_codePoint] at hread
    rw [List.cons_append, List.cons_append]
    refine readQuotedFrom_backslash h ?_
    rw [readQuotedFrom]
    simp only [escapeStep, hletter, hlength, hread, Except.map, List.nil_append]
  rw [escape?] at he
  cases hletter : escapeLetter? c with
  | some letter =>
    simp only [hletter, Option.some.injEq] at he
    subst he
    rw [List.cons_append, List.singleton_append]
    exact readQuotedFrom_backslash h
      (readQuotedFrom_letter (shortEscape?_of_escapeLetter? hletter) hrest)
  | none =>
    have hbound := codePoint_lt c
    simp only [hletter] at he
    split at he
    · cases he
    · split at he
      · obtain rfl := Option.some.inj he
        exact hdigits rfl rfl (by decide) (by omega)
      · split at he
        · obtain rfl := Option.some.inj he
          exact hdigits rfl rfl (by decide) (by omega)
        · obtain rfl := Option.some.inj he
          exact hdigits rfl rfl (by decide) (by omega)

/-- Behind an escaped line end the indentation of the next line does not count. -/
theorem readQuotedFrom_join (h : state.IsResting)
    (hrest : readQuotedFrom true (.joined []) t = .ok (s, rest)) :
    readQuotedFrom true state ('\\' :: (continuation ++ t)) = .ok (state.pending ++ s, rest) := by
  have hresting : (QuotedState.joined []).IsResting := trivial
  have hspace (u : List Char) :
      quotedStep true (.joined []) ' ' u = .ok (.next [] (.joined [])) := rfl
  have hbreak : escapeStep '\n' (' ' :: ' ' :: t) = .ok (.next [] (.joined [])) := by
    have hmarker := atDocumentMarker_cons (c := ' ') (s := ' ' :: t) (by decide) (by decide)
    have hshort : shortEscape? '\n' = none := rfl
    have hlength : hexLength? '\n' = none := rfl
    rw [escapeStep, hshort, hlength]
    simp only [hmarker]
    rfl
  have hspaces : readQuotedFrom true (.joined []) (' ' :: ' ' :: t) = .ok (s, rest) :=
    readQuotedFrom_of_next hresting (hspace _) (readQuotedFrom_of_next hresting (hspace _) hrest)
  refine readQuotedFrom_backslash h ?_
  rw [continuation, List.cons_append, List.cons_append, List.cons_append, List.nil_append,
    readQuotedFrom]
  simp only [hbreak, hspaces, Except.map, List.nil_append]

/-! ## Between double quotes -/

/-- The states in which the reader can be in front of a text that is still to be written from a
column on. Behind the backslash of an escaped space the line is not wrapped, and behind an escaped
line end no space is written as it is. -/
def QuotedState.FitsEscaped (column : Nat) (s : List Char) : QuotedState → Prop
  | .open | .gap _ => True
  | .escape => column ≤ lineWidth ∧ s.head? = some ' '
  | .joined more => more = [] ∧ s.head? ≠ some ' '
  | _ => False

theorem QuotedState.FitsEscaped.isResting (h : state.FitsEscaped column s)
    (hescape : state ≠ .escape) : state.IsResting := by
  cases state with
  | «open» | gap seen | folded first more | joined more => trivial
  | escape => exact absurd rfl hescape
  | twin | hex left value => exact h.elim

/-- A character that is written as it is between double quotes. -/
theorem isAsciiText_of_escape? (h : escape? c = none) :
    isAsciiText c = true ∧ c ≠ '"' ∧ c ≠ '\\' := by
  refine ⟨?_, ?_, ?_⟩
  · rw [escape?] at h
    cases hletter : escapeLetter? c with
    | some letter => simp [hletter] at h
    | none =>
      simp only [hletter] at h
      by_contra hascii
      rw [if_neg hascii] at h
      split at h
      · exact Option.some_ne_none _ h
      · split at h <;> exact Option.some_ne_none _ h
  · rintro rfl
    contradiction
  · rintro rfl
    contradiction

/-- A text is read back from every state that fits it. -/
def ReadsEscaped (wraps : Bool) (s rest : List Char) : Prop :=
  ∀ (state : QuotedState) (column : Nat) (isFirst afterEscape : Bool), state.FitsEscaped column s →
    readQuotedFrom true state (writeEscaped wraps column isFirst afterEscape s ++ '"' :: rest)
      = .ok (state.pending ++ s, rest)

section

variable {isFirst afterEscape : Bool}

theorem ReadsEscaped.read_open (h : ReadsEscaped wraps s rest) (column : Nat)
    (isFirst afterEscape : Bool) :
    readQuotedFrom true .open (writeEscaped wraps column isFirst afterEscape s ++ '"' :: rest)
      = .ok (s, rest) :=
  h .open column isFirst afterEscape trivial

/-- Behind the backslash of an escaped space. -/
theorem ReadsEscaped.cons_space (h : ReadsEscaped wraps s rest) (hcolumn : column ≤ lineWidth) :
    readQuotedFrom true .escape
        (writeEscaped wraps column isFirst afterEscape (' ' :: s) ++ '"' :: rest)
      = .ok (' ' :: s, rest) := by
  have hshort : ¬ lineWidth < column := Nat.not_lt.mpr hcolumn
  have hwrite : writeEscaped wraps column isFirst afterEscape (' ' :: s)
      = ' ' :: writeEscaped wraps (column + 1) false false s := by
    rw [writeEscaped]
    simp [escape?, escapeLetter?, isAsciiText, hshort]
  rw [hwrite]
  exact readQuotedFrom_letter rfl (h.read_open _ _ _)

/-- A character that is escaped. A line that is full ends behind it; the next one starts with an
escape if it starts with a space. -/
theorem ReadsEscaped.cons_escaped {e : List Char} (h : ReadsEscaped wraps s rest)
    (hstate : state.IsResting) (he : escape? c = some e) :
    readQuotedFrom true state
        (writeEscaped wraps column isFirst afterEscape (c :: s) ++ '"' :: rest)
      = .ok (state.pending ++ c :: s, rest) := by
  have hopen : QuotedState.open.IsResting := trivial
  have hjoined : (QuotedState.joined []).IsResting := trivial
  rw [writeEscaped, he]
  simp only
  split
  · split
    · next hhead =>
      have hfits : QuotedState.escape.FitsEscaped (continuationColumn + 1) s := ⟨by decide, hhead⟩
      have hback := readQuotedFrom_backslash hjoined (h _ _ false true hfits)
      have hline := readQuotedFrom_join hopen hback
      have hread := readQuotedFrom_escape hstate he hline
      simpa [QuotedState.pending] using hread
    · next hhead =>
      have hfits : (QuotedState.joined []).FitsEscaped continuationColumn s := ⟨rfl, hhead⟩
      have hline := readQuotedFrom_join hopen (h _ _ false true hfits)
      have hread := readQuotedFrom_escape hstate he hline
      simpa [QuotedState.pending] using hread
  · rw [List.append_assoc]
    exact readQuotedFrom_escape hstate he (h.read_open _ _ _)

/-- A character that stands for itself. If the line is full it starts the next one, where a space is
escaped. -/
theorem ReadsEscaped.cons_verbatim (h : ReadsEscaped wraps s rest)
    (hfits : state.FitsEscaped column (c :: s)) (hstate : state.IsResting)
    (he : escape? c = none) :
    readQuotedFrom true state
        (writeEscaped wraps column isFirst afterEscape (c :: s) ++ '"' :: rest)
      = .ok (state.pending ++ c :: s, rest) := by
  have hjoined : (QuotedState.joined []).IsResting := trivial
  obtain ⟨hascii, hquote, hslash⟩ := isAsciiText_of_escape? he
  have hchar (t : List Char) : quotedChar true c t = .next [c] .open := by
    simp [quotedChar, hquote, hslash]
  rw [writeEscaped, he]
  simp only
  split
  · split
    · next hspace =>
      subst hspace
      have hletter : shortEscape? ' ' = some ' ' := rfl
      have hback := readQuotedFrom_backslash hjoined
        (readQuotedFrom_letter hletter (h.read_open (continuationColumn + 2) false false))
      have hread := readQuotedFrom_join hstate hback
      simpa [QuotedState.pending] using hread
    · next hspace =>
      have hword := readQuotedFrom_char hjoined (isGapOrBreak_eq_false hascii hspace) (hchar _)
        (h.read_open (continuationColumn + 1) false false)
      have hread := readQuotedFrom_join hstate hword
      simpa [QuotedState.pending] using hread
  · by_cases hspace : c = ' '
    · subst hspace
      have hwithin : state = .open ∨ ∃ seen, state = .gap seen := by
        cases state with
        | «open» => exact .inl rfl
        | gap seen => exact .inr ⟨seen, rfl⟩
        | joined more => exact absurd rfl hfits.2
        | folded first more | escape | twin | hex left value => contradiction
      have hgap (seen : List Char) : (QuotedState.gap seen).FitsEscaped (column + 1) s := trivial
      exact readQuotedFrom_space hwithin fun seen ↦ h _ _ false false (hgap seen)
    · have hread := readQuotedFrom_char hstate (isGapOrBreak_eq_false hascii hspace) (hchar _)
        (h.read_open (column + 1) false false)
      simpa using hread

end

theorem readsEscaped (wraps : Bool) (s rest : List Char) : ReadsEscaped wraps s rest := by
  -- On the text; the states behind a character are those the cases above leave the reader in.
  induction s with
  | nil =>
    intro state column isFirst afterEscape h
    have hescape : state ≠ .escape := by
      rintro rfl
      exact absurd h.2 (by simp)
    rw [List.append_nil]
    exact readQuotedFrom_done (h.isResting hescape) rfl rfl
  | cons c s ih =>
    intro state column isFirst afterEscape h
    by_cases hescape : state = .escape
    · subst hescape
      obtain ⟨hcolumn, hhead⟩ := h
      obtain rfl : c = ' ' := Option.some.inj hhead
      exact ih.cons_space hcolumn
    · have hstate := h.isResting hescape
      cases he : escape? c with
      | some e => exact ih.cons_escaped hstate he
      | none => exact ih.cons_verbatim h hstate he

/-- Every text can be written between double quotes. -/
theorem readQuoted_writeEscaped (wraps : Bool) (column : Nat) (s rest : List Char) :
    readQuoted true (writeEscaped wraps column true false s ++ '"' :: rest) = .ok (s, rest) :=
  (readsEscaped wraps s rest).read_open column true false

/-! ## Between single quotes -/

/-- A text that can be written between single quotes: printable ASCII and line feeds, and no space
next to a line feed. -/
structure IsSingle (s : List Char) : Prop where
  chars : ∀ c ∈ s, isAsciiText c = true ∨ c = '\n'
  before_break : ∀ front back, s ≠ front ++ ' ' :: '\n' :: back
  after_break : ∀ front back, s ≠ front ++ '\n' :: ' ' :: back

theorem isAsciiText_of_hasSpecial (h : hasSpecial s = false) :
    ∀ c ∈ s, isAsciiText c = true ∨ c = '\n' := by
  intro c hc
  have hchar := List.any_eq_false.mp h c hc
  simpa [or_iff_not_imp_left] using hchar

theorem hasPair_of_append {p q : Char → Bool} {front back : List Char} (hc : p c = true)
    (hd : q d = true) : hasPair p q (front ++ c :: d :: back) = true := by
  induction front with
  | nil => simp [hasPair, hc, hd]
  | cons a front ih =>
    obtain ⟨b, rest, hrest⟩ := List.exists_cons_of_ne_nil
      (List.append_ne_nil_of_right_ne_nil front (List.cons_ne_nil c (d :: back)))
    rw [hrest] at ih
    rw [List.cons_append, hrest, hasPair, ih, Bool.or_true]

theorem isSingle_of_isSingleText (h : isSingleText s = true) : IsSingle s := by
  simp only [isSingleText, hasSpaceAtBreak, Bool.and_eq_true, Bool.not_eq_true',
    Bool.or_eq_false_iff] at h
  refine ⟨isAsciiText_of_hasSpecial h.1, ?_, ?_⟩
  · rintro front back rfl
    have hpair : hasPair (· == ' ') endsLine (front ++ ' ' :: '\n' :: back) = true :=
      hasPair_of_append (by decide) (by decide)
    rw [h.2.1] at hpair
    exact Bool.false_ne_true hpair
  · rintro front back rfl
    have hpair : hasPair endsLine (· == ' ') (front ++ '\n' :: ' ' :: back) = true :=
      hasPair_of_append (by decide) (by decide)
    rw [h.2.2] at hpair
    exact Bool.false_ne_true hpair

/-- What follows a part of such a text is such a text. -/
theorem IsSingle.of_append (h : IsSingle (s ++ t)) : IsSingle t where
  chars c hc := h.chars c (List.mem_append_right s hc)
  before_break front back e := h.before_break (s ++ front) back (by rw [e, List.append_assoc])
  after_break front back e := h.after_break (s ++ front) back (by rw [e, List.append_assoc])

/-- The states in which the reader can be in front of a text, given the last character of what has
been written before it. Behind a space it may be at the start of a line, at whose end the space was
left out; behind line feeds it holds these back. -/
def QuotedState.FitsWords (before : Option Char) (s : List Char) : QuotedState → Prop
  | .open => before ≠ some ' ' ∧ before ≠ some '\n'
  | .gap _ => before = some ' '
  | .folded first more =>
    first = '\n' ∧ s.head? ≠ some ' ' ∧
      (before = some ' ' ∧ more = [] ∧ s.head? ≠ some '\n' ∨ before = some '\n' ∧ more ≠ [])
  | _ => False

theorem QuotedState.FitsWords.isResting {before : Option Char} (h : state.FitsWords before s) :
    state.IsResting := by
  cases state with
  | «open» | gap seen | folded first more => trivial
  | joined more | escape | twin | hex left value => exact h.elim

/-- A line end that is not part of an escape. -/
theorem quotedStep_break (hmarker : atDocumentMarker t = false) :
    quotedStep double .open '\n' t = .ok (.next [] (.folded '\n' [])) ∧
      ∀ first more, quotedStep double (.folded first more) '\n' t
        = .ok (.next [] (.folded first (more ++ ['\n']))) := by
  constructor
  · unfold quotedStep
    rw [hmarker]
    rfl
  · intro first more
    unfold quotedStep
    rw [hmarker]
    rfl

/-- The spaces at the start of a line do not count. -/
theorem readQuotedFrom_indentation {first : Char} {more : List Char}
    (hrest : readQuotedFrom double (.folded first more) t = .ok (s, rest)) :
    readQuotedFrom double (.folded first more) (' ' :: ' ' :: t) = .ok (s, rest) := by
  have hresting : (QuotedState.folded first more).IsResting := trivial
  have hspace (u : List Char) : quotedStep double (.folded first more) ' ' u
      = .ok (.next [] (.folded first more)) := rfl
  exact readQuotedFrom_of_next hresting (hspace _)
    (readQuotedFrom_of_next hresting (hspace _) hrest)

theorem head?_writeWords_of_break (wraps : Bool) (column : Nat) {before : Option Char}
    (h : s.head? = some '\n') :
    ∃ u, writeWords wraps true column before s = '\n' :: u := by
  obtain ⟨s, rfl⟩ := List.head?_eq_some_iff.mp h
  rw [writeWords, if_neg (by decide), if_pos rfl]
  by_cases hbefore : before = some '\n'
  · exact ⟨_, by rw [if_pos hbefore]; rfl⟩
  · exact ⟨_, by rw [if_neg hbefore]; rfl⟩

/-- What is written behind the line ends of a text: an indentation, unless more line ends follow. -/
theorem atDocumentMarker_indented (wraps : Bool) (column : Nat) {before : Option Char} :
    atDocumentMarker ((if s.head? = some '\n' then [] else [' ', ' ']) ++
      writeWords wraps true column before s ++ t) = false := by
  split
  · next h =>
    obtain ⟨u, hu⟩ := head?_writeWords_of_break wraps column h
    rw [hu]
    exact atDocumentMarker_cons (by decide) (by decide)
  · exact atDocumentMarker_cons (by decide) (by decide)

/-- The line ends of a text: the first of several is doubled. -/
theorem readQuotedFrom_breaks {before : Option Char} (h : state.FitsWords before ('\n' :: s))
    (hbefore : before ≠ some ' ') (hmarker : atDocumentMarker t = false)
    (hrest : ∀ more ≠ [], readQuotedFrom double (.folded '\n' more) t = .ok (more ++ s, rest)) :
    readQuotedFrom double state ((if before = some '\n' then ['\n'] else ['\n', '\n']) ++ t)
      = .ok (state.pending ++ '\n' :: s, rest) := by
  have hresting := h.isResting
  cases state with
  | «open» =>
    rw [if_neg h.2]
    have hfolded : (QuotedState.folded '\n' []).IsResting := trivial
    have hsecond : readQuotedFrom double (.folded '\n' []) ('\n' :: t) = .ok ('\n' :: s, rest) :=
      readQuotedFrom_of_next hfolded ((quotedStep_break hmarker).2 _ _) (hrest _ (by simp))
    refine readQuotedFrom_of_next hresting (quotedStep_break ?_).1 hsecond
    exact atDocumentMarker_cons (by decide) (by decide)
  | folded first more =>
    obtain ⟨rfl, -, ⟨hgap, -⟩ | ⟨hfirst, hmore⟩⟩ := h
    · exact absurd hgap hbefore
    · rw [if_pos hfirst]
      have hread := readQuotedFrom_of_next hresting ((quotedStep_break hmarker).2 _ _)
        (hrest (more ++ ['\n']) (by simp))
      simpa [QuotedState.pending, foldBreaks, hmore] using hread
  | gap seen => exact absurd h hbefore
  | joined more | escape | twin | hex left value => exact h.elim

/-- The second of two apostrophes. -/
theorem readQuotedFrom_twin (hrest : readQuotedFrom double .open t = .ok (s, rest)) :
    readQuotedFrom double .twin ('\'' :: t) = .ok ('\'' :: s, rest) := by
  simp only [readQuotedFrom, hrest, Except.map, List.singleton_append]

/-- A text is read back from every state that fits it and what has been written before it. -/
def ReadsWords (wraps : Bool) (s rest : List Char) : Prop :=
  ∀ (state : QuotedState) (column : Nat) (before : Option Char), IsSingle (before.toList ++ s) →
    state.FitsWords before s →
    readQuotedFrom false state (writeWords wraps true column before s ++ '\'' :: rest)
      = .ok (state.pending ++ s, rest)

section

variable {before : Option Char}

/-- A space. At the end of a line it is left out. -/
theorem ReadsWords.cons_space (h : ReadsWords wraps s rest)
    (hs : IsSingle ((some ' ').toList ++ s)) (hfits : state.FitsWords before (' ' :: s)) :
    readQuotedFrom false state (writeWords wraps true column before (' ' :: s) ++ '\'' :: rest)
      = .ok (state.pending ++ ' ' :: s, rest) := by
  have hwithin : state = .open ∨ ∃ seen, state = .gap seen := by
    cases state with
    | «open» => exact .inl rfl
    | gap seen => exact .inr ⟨seen, rfl⟩
    | folded first more => exact absurd rfl hfits.2.1
    | joined more | escape | twin | hex left value => exact hfits.elim
  have hbreak : s.head? ≠ some '\n' := by
    intro hhead
    obtain ⟨s, rfl⟩ := List.head?_eq_some_iff.mp hhead
    exact hs.before_break [] s rfl
  rw [writeWords, if_pos rfl]
  simp only
  split
  · next hwraps =>
    simp only [Bool.and_eq_true, bne_iff_ne, decide_eq_true_eq] at hwraps
    obtain ⟨⟨-, ⟨⟨-, hbefore⟩, -⟩, hhead⟩, -⟩ := hwraps
    obtain rfl : state = .open := by
      obtain rfl | ⟨seen, rfl⟩ := hwithin
      · rfl
      · exact absurd hfits hbefore
    have hfolded : (QuotedState.folded '\n' []).FitsWords (some ' ') s :=
      ⟨rfl, hhead, .inl ⟨rfl, rfl, hbreak⟩⟩
    refine readQuotedFrom_of_next trivial (quotedStep_break ?_).1
      (readQuotedFrom_indentation (h _ _ _ hs hfolded))
    exact atDocumentMarker_cons (by decide) (by decide)
  · have hgap (seen : List Char) : (QuotedState.gap seen).FitsWords (some ' ') s := rfl
    exact readQuotedFrom_space hwithin fun seen ↦ h _ _ _ hs (hgap seen)

/-- A line feed. Those that follow one another are held back together. -/
theorem ReadsWords.cons_break (h : ReadsWords wraps s rest)
    (hs : IsSingle (before.toList ++ '\n' :: s)) (hfits : state.FitsWords before ('\n' :: s)) :
    readQuotedFrom false state (writeWords wraps true column before ('\n' :: s) ++ '\'' :: rest)
      = .ok (state.pending ++ '\n' :: s, rest) := by
  have htail : IsSingle ((some '\n').toList ++ s) := hs.of_append
  have hbefore : before ≠ some ' ' := by
    rintro rfl
    exact hs.before_break [] s rfl
  have hhead : s.head? ≠ some ' ' := by
    intro hhead
    obtain ⟨s, rfl⟩ := List.head?_eq_some_iff.mp hhead
    exact htail.after_break [] s rfl
  have hlines {more : List Char} (hmore : more ≠ []) : readQuotedFrom false (.folded '\n' more)
      ((if s.head? = some '\n' then [] else [' ', ' ']) ++
        writeWords wraps true continuationColumn (some '\n') s ++ '\'' :: rest)
      = .ok (more ++ s, rest) := by
    have hfolded : (QuotedState.folded '\n' more).FitsWords (some '\n') s :=
      ⟨rfl, hhead, .inr ⟨rfl, hmore⟩⟩
    have hread := h _ continuationColumn _ htail hfolded
    have hpending : (QuotedState.folded '\n' more).pending = more := by
      simp [QuotedState.pending, foldBreaks, hmore]
    rw [hpending] at hread
    split
    · exact hread
    · exact readQuotedFrom_indentation hread
  rw [writeWords, if_neg (by decide), if_pos rfl, List.append_assoc, List.append_assoc,
    ← List.append_assoc (if s.head? = some '\n' then [] else [' ', ' '])]
  refine readQuotedFrom_breaks hfits hbefore ?_ fun more hmore ↦ hlines hmore
  exact atDocumentMarker_indented wraps continuationColumn

/-- Any other character. An apostrophe is doubled. -/
theorem ReadsWords.cons_char (h : ReadsWords wraps s rest) (hs : IsSingle ((some c).toList ++ s))
    (hstate : state.IsResting) (hspace : c ≠ ' ') (hbreak : c ≠ '\n') :
    readQuotedFrom false state (writeWords wraps true column before (c :: s) ++ '\'' :: rest)
      = .ok (state.pending ++ c :: s, rest) := by
  have hopen : QuotedState.open.FitsWords (some c) s := by
    constructor
    · simpa using hspace
    · simpa using hbreak
  have hgap : isGapOrBreak c = false := by
    refine isGapOrBreak_eq_false ?_ hspace
    exact (hs.chars c (by simp)).resolve_right hbreak
  rw [writeWords, if_neg hspace, if_neg hbreak]
  by_cases hquote : c = '\''
  · subst hquote
    rw [if_pos ⟨rfl, rfl⟩]
    have hchar (t : List Char) : quotedChar false '\'' ('\'' :: t) = .next [] .twin := by
      simp [quotedChar]
    exact readQuotedFrom_char hstate hgap (hchar _) (readQuotedFrom_twin (h _ _ _ hs hopen))
  · rw [if_neg (by simp [hquote])]
    have hchar (t : List Char) : quotedChar false c t = .next [c] .open := by
      simp [quotedChar, hquote]
    exact readQuotedFrom_char hstate hgap (hchar _) (h _ _ _ hs hopen)

end

theorem readsWords (wraps : Bool) (s : List Char) (hend : rest.head? ≠ some '\'') :
    ReadsWords wraps s rest := by
  induction s with
  | nil =>
    intro state column before hs h
    rw [List.append_nil]
    refine readQuotedFrom_done h.isResting rfl ?_
    simp [quotedChar, hend]
  | cons c s ih =>
    intro state column before hs h
    have htail : IsSingle ((some c).toList ++ s) := hs.of_append
    by_cases hspace : c = ' '
    · subst hspace
      exact ih.cons_space htail h
    · by_cases hbreak : c = '\n'
      · subst hbreak
        exact ih.cons_break hs h
      · exact ih.cons_char htail h.isResting hspace hbreak

theorem readQuoted_writeWords (wraps : Bool) (column : Nat) (hs : IsSingle s)
    (hend : rest.head? ≠ some '\'') :
    readQuoted false (writeWords wraps true column none s ++ '\'' :: rest) = .ok (s, rest) := by
  have hfits : QuotedState.open.FitsWords none s := ⟨by simp, by simp⟩
  exact readsWords wraps s hend _ column none hs hfits

end TableProperties.Yaml
