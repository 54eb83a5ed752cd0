import TableProperties.Proofs.Yaml.Printer
import TableProperties.Yaml.Lexer

/-!
# Tokens of scalars

A scalar in front of the lexer becomes one token, whatever its style is, and it leaves the lexer
where what ends the scalar begins. Positions count: a place that may turn out to be the start of a
key lapses with its line.

## Main statements

* `Position.skip_text`, `Position.skip_line`: where a position is moved by a text.
* `Lexer.token_scalar`: the token of a written scalar.
-/

namespace TableProperties.Yaml

variable {c : Char} {s t u w rest : List Char} {wraps crossed : Bool} {column : Nat}

/-! ## Positions -/

namespace Position

variable {p : Position}

theorem skip_add (p : Position) (m n : Nat) : p.skip (m + n) = (p.skip m).skip n := by
  induction m generalizing p with
  | zero => rw [Nat.zero_add, skip]
  | succ m ih => rw [Nat.succ_add, skip, skip, ih]

theorem skipTo_of_rest (h : p.rest = w ++ t) : p.skipTo t = p.skip w.length := by
  rw [skipTo, h, List.length_append, Nat.add_sub_cancel]

/-- A text without line ends leaves the line as it is. -/
theorem skip_text (hw : ∀ c ∈ w, isBreak c = false) (h : p.rest = w ++ t) :
    ∃ column, p.skip w.length = ⟨t, p.index + w.length, p.line, column⟩ := by
  induction w generalizing p with
  | nil =>
    obtain rfl : p.rest = t := h
    exact ⟨p.column, rfl⟩
  | cons c w ih =>
    have hc := hw c List.mem_cons_self
    have hrest : p.next.rest = w ++ t := by rw [rest_next, h]; rfl
    have hindex : p.next.index = p.index + 1 := by simp [next, h, hc]
    have hline : p.next.line = p.line := by simp [next, h, hc]
    obtain ⟨column, hskip⟩ := ih (fun d hd ↦ hw d (List.mem_cons_of_mem c hd)) hrest
    refine ⟨column, ?_⟩
    rw [List.length_cons, skip, hskip, hindex, hline, Nat.add_assoc, Nat.add_comm 1]

theorem next_of_break (h : p.rest = '\n' :: t) :
    p.next = ⟨t, p.index + 1, p.line + 1, 0⟩ := by
  simp only [next, h]
  rfl

theorem line_le_next (p : Position) : p.line ≤ p.next.line := by
  unfold next
  cases p.rest with
  | nil => exact Nat.le_refl _
  | cons c rest =>
    simp only
    split
    · exact Nat.le_succ _
    · exact Nat.le_refl _

theorem line_le_skip (p : Position) (n : Nat) : p.line ≤ (p.skip n).line := by
  induction n generalizing p with
  | zero => exact Nat.le_refl _
  | succ n ih => exact Nat.le_trans p.line_le_next (ih p.next)

/-- Behind a line end the position is at the start of a later line. -/
theorem skip_line (h : p.rest = w ++ '\n' :: t) :
    ∃ index line, p.line < line ∧ p.skip (w.length + 1) = ⟨t, index, line, 0⟩ := by
  have hrest : (p.skip w.length).rest = '\n' :: t := by rw [rest_skip, h, List.drop_left]
  refine ⟨(p.skip w.length).index + 1, (p.skip w.length).line + 1, ?_, ?_⟩
  · exact Nat.lt_succ_of_le (line_le_skip p w.length)
  · rw [skip_add, skip, skip, next_of_break hrest]

end Position

/-! ## Between tokens -/

/-- A text that starts with a token: with a printable character that is no space and starts no
comment. -/
def StartsToken (t : List Char) : Prop :=
  ∃ c after, t = c :: after ∧ isAsciiText c = true ∧ c ≠ ' ' ∧ c ≠ '#'

theorem isBreak_of_isAsciiText (h : isAsciiText c = true) : isBreak c = false := by
  by_cases hspace : c = ' '
  · subst hspace
    rfl
  · have hgap := isGapOrBreak_eq_false h hspace
    rw [isGapOrBreak, Bool.or_eq_false_iff] at hgap
    exact hgap.2

theorem ne_byteOrderMark_of_isAsciiText (h : isAsciiText c = true) :
    c ≠ Text.Utf8.byteOrderMark := by
  rintro rfl
  exact absurd h (by decide)

/-! ## Written scalars -/

/-- What ends a scalar: the text after it, the text at which the lexer stands then, and whether
there is a line end between the two. -/
structure EndsScalar (indent : Nat) (s t rest : List Char) (crossed : Bool) : Prop where
  plain : Style.ofText s = .plain → EndsPlain indent t rest crossed
  quoted : Style.ofText s ≠ .plain → rest = t ∧ crossed = false
  quote : t.head? ≠ some '\''

/-- The token of a text. -/
def scalarToken (s : List Char) : Token :=
  .scalar (Style.ofText s == .plain) s

/-- A text that stands for itself on its line: a written scalar with what ends it. -/
theorem startsLine_writeScalar (wraps : Bool) (column : Nat) (s : List Char)
    (ht : Style.ofText s = .plain → runLength false t = 0) :
    StartsToken (writeScalar wraps column s ++ t) ∧
      atDocumentMarker (writeScalar wraps column s ++ t) = false := by
  cases hstyle : Style.ofText s with
  | plain =>
    obtain ⟨c, after, hwrite, hstart⟩ :=
      startsPlain_of_isPlainText (isPlainText_of_ofText hstyle) (ht hstyle) wraps column
    have hsharp : c ≠ '#' := by
      rintro rfl
      exact absurd hstart.indicator (by decide)
    rw [writeScalar, hstyle]
    simp only [hwrite]
    exact ⟨⟨c, after, rfl, hstart.ascii, hstart.space, hsharp⟩, hstart.marker⟩
  | single =>
    rw [writeScalar, hstyle]
    constructor
    · exact ⟨_, _, rfl, by decide, by decide, by decide⟩
    · exact atDocumentMarker_cons (by decide) (by decide)
  | double =>
    rw [writeScalar, hstyle]
    constructor
    · exact ⟨_, _, rfl, by decide, by decide, by decide⟩
    · exact atDocumentMarker_cons (by decide) (by decide)

namespace Lexer

variable {x y z : Lexer} {T : List Token} {cs : List (Nat × Candidate)}

theorem gapLength_of_startsToken (h : t = [] ∨ StartsToken t) : gapLength false t = (0, false) := by
  obtain rfl | ⟨c, after, rfl, hascii, hspace, hsharp⟩ := h
  · rfl
  · simp [gapLength, isBreak_of_isAsciiText hascii, hspace, hsharp]

/-- Where no byte order mark stands, only white space and comments are skipped. -/
theorem skipGap_eq {n : Nat} {crossing : Bool}
    (hmark : x.rest.head? ≠ some Text.Utf8.byteOrderMark)
    (h : gapLength false x.rest = (n, crossing)) :
    x.skipGap = if crossing && !x.inFlow then (x.advance n).allowKey true else x.advance n := by
  have hnot : ¬ (x.position.index = 0 ∧ x.rest.head? = some Text.Utf8.byteOrderMark) :=
    fun h ↦ hmark h.2
  simp only [skipGap, if_neg hnot, h]
  rfl

theorem skipGap_eq_self (h : x.rest = [] ∨ StartsToken x.rest) : x.skipGap = x := by
  have hmark : x.rest.head? ≠ some Text.Utf8.byteOrderMark := by
    obtain hrest | ⟨c, after, hrest, hascii, -⟩ := h
    · simp [hrest]
    · rw [hrest]
      simpa using ne_byteOrderMark_of_isAsciiText hascii
  rw [skipGap_eq hmark (gapLength_of_startsToken h)]
  rfl

theorem skipGap_space (h : x.rest = ' ' :: t) (ht : StartsToken t) : x.skipGap = x.advance 1 := by
  have hmark : x.rest.head? ≠ some Text.Utf8.byteOrderMark := by
    rw [h, List.head?_cons]
    decide
  have hgap : gapLength false x.rest = (1, false) := by
    rw [h]
    simp [gapLength, isBreak, gapLength_of_startsToken (.inr ht)]
  rw [skipGap_eq hmark hgap]
  rfl

theorem skipGap_break (h : x.rest = '\n' :: t) (ht : t = [] ∨ StartsToken t)
    (hdepth : x.depth = 0) : x.skipGap = (x.advance 1).allowKey true := by
  have hmark : x.rest.head? ≠ some Text.Utf8.byteOrderMark := by
    rw [h, List.head?_cons]
    decide
  have hgap : gapLength false x.rest = (1, true) := by
    rw [h]
    simp [gapLength, isBreak, gapLength_of_startsToken ht]
  rw [skipGap_eq hmark hgap]
  simp [inFlow, hdepth]

/-! ## Candidates and indentation -/

theorem dropLapsed_eq (x : Lexer) : x.dropLapsed =
    if (x.candidates.any fun e ↦ x.hasLapsed e.2 && e.2.isRequired) = true then .error .malformed
    else .ok { x with candidates := x.candidates.filter fun e ↦ !x.hasLapsed e.2 } :=
  rfl

/-- Candidates that have lapsed are dropped, if none is required. -/
theorem dropLapsed_of_lapsed
    (h : ∀ e ∈ x.candidates, x.hasLapsed e.2 = true ∧ e.2.isRequired = false) :
    x.dropLapsed = .ok { x with candidates := [] } := by
  have hnone : (x.candidates.any fun e ↦ x.hasLapsed e.2 && e.2.isRequired) = false :=
    List.any_eq_false.mpr fun e he ↦ by simp [(h e he).2]
  have hfilter : (x.candidates.filter fun e ↦ !x.hasLapsed e.2) = [] :=
    List.filter_eq_nil_iff.mpr fun e he ↦ by simp [(h e he).1]
  rw [dropLapsed_eq, hnone, hfilter]
  rfl

/-- Where no candidate has lapsed, none is dropped. -/
theorem dropLapsed_eq_self (h : ∀ e ∈ x.candidates, x.hasLapsed e.2 = false) :
    x.dropLapsed = .ok x := by
  have hnone : (x.candidates.any fun e ↦ x.hasLapsed e.2 && e.2.isRequired) = false :=
    List.any_eq_false.mpr fun e he ↦ by simp [h e he]
  have hfilter : (x.candidates.filter fun e ↦ !x.hasLapsed e.2) = x.candidates :=
    List.filter_eq_self.mpr fun e he ↦ by simp [h e he]
  rw [dropLapsed_eq, hnone, hfilter]
  rfl

/-- A required candidate must not lapse. -/
theorem dropLapsed_of_required {e : Nat × Candidate} (he : e ∈ x.candidates)
    (hlapsed : x.hasLapsed e.2 = true) (hrequired : e.2.isRequired = true) :
    x.dropLapsed = .error .malformed := by
  rw [dropLapsed_eq, if_pos]
  exact List.any_eq_true.mpr ⟨e, he, by rw [hlapsed, hrequired]; rfl⟩

/-- If all candidates have lapsed, all tokens are settled. -/
theorem settled_of_lapsed (h : ∀ e ∈ x.candidates, x.hasLapsed e.2 = true) :
    x.settled = x.tokens := by
  have hfilter : (x.candidates.filter fun e ↦ !x.hasLapsed e.2) = [] :=
    List.filter_eq_nil_iff.mpr fun e he ↦ by simp [h e he]
  rw [settled]
  split
  · rfl
  · next place hplace =>
    have hmin : ((x.candidates.filter fun e ↦ !x.hasLapsed e.2).map fun e ↦ e.2.place).min?
        = some place := hplace
    rw [hfilter] at hmin
    contradiction

theorem unwindTo_of_le {column indent : Int} {outer : List Int} (h : indent ≤ column) :
    unwindTo column indent outer = (indent, outer, []) := by
  cases outer with
  | nil => rfl
  | cons next outer => rw [unwindTo, if_neg (Int.not_lt.mpr h)]

theorem unwind_of_le {column : Int} (h : x.indent ≤ column) : x.unwind column = x := by
  rw [unwind]
  split
  · rfl
  · rw [unwindTo_of_le h]
    simp [emit]

/-- One step of the lexer, at a token that ends no block collection. -/
theorem next_eq (hgap : x.skipGap.dropLapsed = .ok y) (hindent : y.indent ≤ 0) {after : List Char}
    (hrest : y.rest = c :: after) : x.next = (y.token c after).map (·, false) := by
  have hunwind : y.unwind y.column = y := unwind_of_le (by omega)
  rw [next, hgap]
  simp only [hunwind, hrest]

theorem next_of_token (hgap : x.skipGap.dropLapsed = .ok y) (hindent : y.indent ≤ 0)
    {after : List Char} (hrest : y.rest = c :: after) (htoken : y.token c after = .ok z) :
    x.next = .ok (z, false) := by
  rw [next_eq hgap hindent hrest, htoken]
  rfl

/-! ## Scalars -/

theorem startsPlain_eq_true {after : List Char} (h : StartsPlain c after)
    (hflow : x.inFlow = false) : x.startsPlain c after = true := by
  by_cases hmark : c = '?' ∨ c = ':' ∨ c = '-'
  · have hgap := h.mark hmark
    rcases hmark with rfl | rfl | rfl <;> simp [startsPlain, hgap, hflow]
  · have hindicator := h.indicator
    have hgap := isGapOrBreak_eq_false h.ascii h.space
    simp only [not_or] at hmark
    have hnone : isIndicator c = false := by
      simp_all [isIndicator]
    simp [startsPlain, hgap, hnone]

theorem token_of_startsPlain {after : List Char} (h : StartsPlain c after)
    (hrest : x.rest = c :: after) (hdepth : x.depth = 0) : x.token c after = x.plainScalar := by
  have hflow : x.inFlow = false := by simp [inFlow, hdepth]
  have hplain := startsPlain_eq_true h hflow
  have hindicator := h.indicator
  simp only [List.contains_eq_mem, decide_eq_false_iff_not] at hindicator
  have hne {d : Char} (hd : d ∈ "#,[]\x7b\x7d&*!|>'\"%@\x60".toList) : c ≠ d := by
    rintro rfl
    exact hindicator hd
  have hmark {d : Char} (hd : d = '?' ∨ d = ':' ∨ d = '-') : ¬ (c = d ∧ atGap after = true) := by
    rintro ⟨rfl, hgap⟩
    rw [h.mark hd] at hgap
    contradiction
  unfold token
  simp only [hrest, h.marker, hflow, hplain, hmark (.inl rfl), hmark (.inr (.inl rfl)),
    hmark (.inr (.inr rfl)), hne (d := '%') (by decide), hne (d := '[') (by decide),
    hne (d := ']') (by decide), hne (d := '\x7b') (by decide), hne (d := '\x7d') (by decide),
    hne (d := ',') (by decide), hne (d := '*') (by decide), hne (d := '&') (by decide),
    hne (d := '!') (by decide), hne (d := '|') (by decide), hne (d := '>') (by decide),
    hne (d := '\'') (by decide), hne (d := '"') (by decide), Bool.and_false, Bool.false_or,
    Bool.false_eq_true, false_and, if_false, if_true]

theorem token_apostrophe {after : List Char} (hrest : x.rest = '\'' :: after) :
    x.token '\'' after = x.quotedScalar false := by
  have hmarker := atDocumentMarker_cons (c := '\'') (s := after) (by decide) (by decide)
  unfold token
  simp [hrest, hmarker]

theorem token_quotation {after : List Char} (hrest : x.rest = '"' :: after) :
    x.token '"' after = x.quotedScalar true := by
  have hmarker := atDocumentMarker_cons (c := '"') (s := after) (by decide) (by decide)
  unfold token
  simp [hrest, hmarker]

theorem token_question {after : List Char} (hrest : x.rest = '?' :: ' ' :: after) :
    x.token '?' (' ' :: after) = x.keyMark := by
  have hmarker := atDocumentMarker_cons (c := '?') (s := ' ' :: after) (by decide) (by decide)
  unfold token
  simp [hrest, hmarker, atGap, endsOr, isGapOrBreak, isGap]

theorem token_colon {after : List Char} (hrest : x.rest = ':' :: ' ' :: after) :
    x.token ':' (' ' :: after) = x.valueMark := by
  have hmarker := atDocumentMarker_cons (c := ':') (s := ' ' :: after) (by decide) (by decide)
  unfold token
  simp [hrest, hmarker, atGap, endsOr, isGapOrBreak, isGap]

/-- The state behind a scalar. -/
def afterScalar (x : Lexer) (cs : List (Nat × Candidate)) (s rest : List Char) (crossed : Bool) :
    Lexer :=
  { x with
    position := x.position.skipTo rest
    tokens := x.tokens ++ [scalarToken s]
    allowsKey := crossed
    candidates := cs }

theorem quotedScalar_eq {double : Bool} (hstyle : Style.ofText s ≠ .plain) (hrest : x.rest = c :: w)
    (hread : readQuoted double w = .ok (s, rest))
    (hsave : x.saveCandidate = .ok { x with candidates := cs }) :
    x.quotedScalar double = .ok (x.afterScalar cs s rest false) := by
  have htail : x.position.rest.tail = w := by
    rw [Lexer.rest] at hrest
    rw [hrest, List.tail_cons]
  have hplain : (Style.ofText s == .plain) = false := beq_eq_false_iff_ne.mpr hstyle
  rw [quotedScalar, hsave]
  simp only [Lexer.rest, htail, hread, afterScalar, scalarToken, hplain, allowKey, advanceTo, emit]

theorem plainScalar_eq (hstyle : Style.ofText s = .plain) (hdepth : x.depth = 0)
    (hread : readPlain false (x.indent + 1).toNat x.column x.rest = ⟨s, rest, crossed⟩)
    (hsave : x.saveCandidate = .ok { x with candidates := cs }) :
    x.plainScalar = .ok (x.afterScalar cs s rest crossed) := by
  simp only [Lexer.rest, Lexer.column] at hread
  rw [plainScalar, hsave]
  simp [Except.map, inFlow, hdepth, Lexer.rest, Lexer.column, hread, afterScalar, scalarToken,
    hstyle, allowKey, advanceTo, emit]

/-- **A written scalar is one token**, in whatever style it is written. -/
theorem token_scalar (hdepth : x.depth = 0) (hindent : x.indent ≤ 0)
    (hrest : x.rest = writeScalar wraps column s ++ t)
    (hend : EndsScalar (x.indent + 1).toNat s t rest crossed)
    (hsave : x.saveCandidate = .ok { x with candidates := cs }) :
    ∃ c after, x.rest = c :: after ∧ x.token c after = .ok (x.afterScalar cs s rest crossed) := by
  rw [writeScalar] at hrest
  cases hstyle : Style.ofText s with
  | plain =>
    rw [hstyle] at hrest
    simp only at hrest
    have hplain := isPlainText_of_ofText hstyle
    have hends := hend.plain hstyle
    have hread := readPlain_writeWords hplain (by omega) hends wraps column x.column
    rw [← hrest] at hread
    obtain ⟨c, after, hwrite, hstart⟩ := startsPlain_of_isPlainText hplain hends.run wraps column
    refine ⟨c, after, hrest.trans hwrite, ?_⟩
    rw [token_of_startsPlain hstart (hrest.trans hwrite) hdepth]
    exact plainScalar_eq hstyle hdepth hread hsave
  | single =>
    have hquoted : Style.ofText s ≠ .plain := by simp [hstyle]
    obtain ⟨rfl, rfl⟩ := hend.quoted hquoted
    simp only [hstyle, List.cons_append, List.append_assoc, List.nil_append] at hrest
    have hread := readQuoted_writeWords wraps (column + 1)
      (isSingle_of_isSingleText (isSingleText_of_ofText hstyle)) hend.quote
    refine ⟨_, _, hrest, ?_⟩
    rw [token_apostrophe hrest]
    exact quotedScalar_eq hquoted hrest hread hsave
  | double =>
    have hquoted : Style.ofText s ≠ .plain := by simp [hstyle]
    obtain ⟨rfl, rfl⟩ := hend.quoted hquoted
    simp only [hstyle, List.cons_append, List.append_assoc, List.nil_append] at hrest
    have hread := readQuoted_writeEscaped wraps (column + 1) s rest
    refine ⟨_, _, hrest, ?_⟩
    rw [token_quotation hrest]
    exact quotedScalar_eq hquoted hrest hread hsave

end Lexer

end TableProperties.Yaml
