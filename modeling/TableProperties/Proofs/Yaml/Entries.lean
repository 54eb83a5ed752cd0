import TableProperties.Proofs.Yaml.Lexer

/-!
# Tokens of entries

An entry of a block mapping starts at the start of a line and ends at the start of another one, so
the tokens of a mapping follow from what happens on the way between two such states. The first
entry opens the mapping. A key without a mark in front is known as one at its colon, so what is
written for it must not be longer than a candidate lives.

## Main statements

* `Lexer.exists_run_entry`: the tokens of one entry.
* `tokens_writeEntries`: those of all entries.
-/

namespace TableProperties.Yaml

variable {c : Char} {s t u w rest : List Char} {wraps crossed isFirst : Bool} {column : Nat}

/-! ## Between lines -/

/-- What stands behind an entry: nothing, or a line that starts with a token and is no document
marker. -/
structure StartsLine (u : List Char) : Prop where
  token : u = [] ∨ StartsToken u
  marker : atDocumentMarker u = false

theorem endsScalar_colon {indent : Nat} :
    EndsScalar indent s (':' :: ' ' :: u) (':' :: ' ' :: u) false where
  plain _ := endsPlain_colon
  quoted _ := ⟨rfl, rfl⟩
  quote := by simp

/-- At the end of its line a plain scalar takes the line end with it. -/
theorem exists_endsScalar_break {indent : Nat} (hindent : 0 < indent) (hu : StartsLine u)
    (s : List Char) :
    ∃ rest crossed, EndsScalar indent s ('\n' :: u) rest crossed ∧
      (rest = u ∧ crossed = true ∨ rest = '\n' :: u ∧ crossed = false) := by
  by_cases hstyle : Style.ofText s = .plain
  · refine ⟨u, true, ⟨fun _ ↦ endsPlain_break hindent hu.marker ?_, absurd hstyle, by simp⟩,
      .inl ⟨rfl, rfl⟩⟩
    intro c hc
    obtain rfl | ⟨d, after, rfl, hascii, hspace, -⟩ := hu.token
    · contradiction
    · obtain rfl : d = c := Option.some.inj hc
      exact ⟨hspace, isBreak_of_isAsciiText hascii⟩
  · exact ⟨'\n' :: u, false, ⟨fun h ↦ absurd h hstyle, fun _ ↦ ⟨rfl, rfl⟩, by simp⟩,
      .inr ⟨rfl, rfl⟩⟩

/-! ## Written entries -/

/-- The text of some entries. -/
def writeEntries (entries : List (List Char × List Char)) : List Char :=
  entries.flatMap fun e ↦ writeEntry e.1 e.2

theorem writeEntries_cons (e : List Char × List Char) (entries : List (List Char × List Char)) :
    writeEntries (e :: entries) = writeEntry e.1 e.2 ++ writeEntries entries :=
  List.flatMap_cons

theorem write_eq_writeEntries {entries : List (List Char × List Char)} (hne : entries ≠ []) :
    write entries = writeEntries entries := by
  rw [write, if_neg (by simpa using hne)]
  rfl

theorem isMultiline_of_isSimpleKey (h : isSimpleKey s = true) : isMultiline s = false := by
  simp only [isSimpleKey, Bool.and_eq_true, Bool.not_eq_true'] at h
  exact h.2

/-- A key that is written without a mark must not be longer than a candidate lives. -/
def FitsKey (key : List Char) : Prop :=
  isSimpleKey key = true → (writeScalar false 0 key).length ≤ Lexer.maxKeyLength

instance (key : List Char) : Decidable (FitsKey key) :=
  inferInstanceAs (Decidable (_ → _))

theorem writeEntry_starts (key value u : List Char) :
    StartsToken (writeEntry key value ++ u) ∧
      atDocumentMarker (writeEntry key value ++ u) = false := by
  rw [writeEntry]
  split
  · simp only [List.append_assoc, List.cons_append]
    exact startsLine_writeScalar false 0 key fun _ ↦ rfl
  · exact ⟨⟨_, _, rfl, by decide, by decide, by decide⟩,
      atDocumentMarker_cons (by decide) (by decide)⟩

/-- A written entry starts a line, whatever follows it. -/
theorem startsLine_writeEntry (key value u : List Char) :
    StartsLine (writeEntry key value ++ u) where
  token := .inr (writeEntry_starts key value u).1
  marker := (writeEntry_starts key value u).2

theorem startsToken_writeEntries {entries : List (List Char × List Char)}
    (h : entries = [] → StartsToken u) : StartsToken (writeEntries entries ++ u) := by
  cases entries with
  | nil => exact h rfl
  | cons e entries =>
    rw [writeEntries_cons, List.append_assoc]
    exact (writeEntry_starts e.1 e.2 _).1

theorem startsLine_writeEntries (hu : StartsLine u) (entries : List (List Char × List Char)) :
    StartsLine (writeEntries entries ++ u) := by
  cases entries with
  | nil => exact hu
  | cons e entries =>
    rw [writeEntries_cons, List.append_assoc]
    exact startsLine_writeEntry e.1 e.2 _

/-- The tokens of an entry. -/
def entryTokens (e : List Char × List Char) : List Token :=
  [.key, scalarToken e.1, .value, scalarToken e.2]

/-- The tokens of a mapping up to the end of some entries. -/
def openTokens (entries : List (List Char × List Char)) : List Token :=
  if entries.isEmpty then [] else .blockMappingStart :: entries.flatMap entryTokens

namespace Lexer

variable {x y : Lexer} {T : List Token} {cs : List (Nat × Candidate)}

/-- The state at the start of a line. The first line of a mapping is yet to open it. -/
def lineStart (isFirst : Bool) (tokens : List Token) (rest : List Char) (index line : Nat) :
    Lexer where
  position := ⟨rest, index, line, 0⟩
  tokens := tokens
  indent := if isFirst then -1 else 0
  outer := if isFirst then [] else [-1]

/-- Whether the lexer is at the start of a line as soon as it looks for the next token. -/
def IsAtLine (x : Lexer) (isFirst : Bool) (tokens : List Token) (rest : List Char) : Prop :=
  ∃ index line, x.skipGap.dropLapsed = .ok (lineStart isFirst tokens rest index line)

/-- Behind a scalar that ends its line, the next thing to look at is the line below. -/
theorem exists_skipGap_afterScalar (hindent : y.indent = 0) (houter : y.outer = [-1])
    (hdepth : y.depth = 0) (hrest : y.rest = w ++ '\n' :: u) (hu : u = [] ∨ StartsToken u)
    (hend : rest = u ∧ crossed = true ∨ rest = '\n' :: u ∧ crossed = false) :
    ∃ index line, y.position.line < line ∧ (y.afterScalar cs s rest crossed).skipGap =
      { lineStart false (y.tokens ++ [scalarToken s]) u index line with candidates := cs } := by
  obtain ⟨index, line, hline, hskip⟩ := Position.skip_line hrest
  refine ⟨index, line, hline, ?_⟩
  -- A plain scalar has read the line end already, a quoted one has left it to the gap.
  obtain ⟨rfl, rfl⟩ | ⟨rfl, rfl⟩ := hend
  · have hposition : y.position.skipTo rest = ⟨rest, index, line, 0⟩ := by
      rw [List.append_cons] at hrest
      rw [Position.skipTo_of_rest hrest, List.length_append, List.length_singleton, hskip]
    have hafter : y.afterScalar cs s rest true = { lineStart false
        (y.tokens ++ [scalarToken s]) rest index line with candidates := cs } := by
      simp [afterScalar, hposition, lineStart, hindent, houter, hdepth]
    rw [hafter]
    exact skipGap_eq_self hu
  · have hposition : y.position.skipTo ('\n' :: u) = y.position.skip w.length :=
      Position.skipTo_of_rest hrest
    have hafter : (y.afterScalar cs s ('\n' :: u) false).rest = '\n' :: u := by
      rw [Lexer.rest] at hrest
      simp [afterScalar, Lexer.rest, hposition, hrest]
    rw [skipGap_break hafter hu hdepth]
    simp only [afterScalar, advance, allowKey, hposition, ← Position.skip_add, hskip, lineStart]
    simp [hindent, houter, hdepth]

/-- At the end of its line a scalar leaves the lexer in front of the next line. -/
theorem isAtLine_afterScalar (hindent : y.indent = 0) (houter : y.outer = [-1])
    (hdepth : y.depth = 0) (hrest : y.rest = w ++ '\n' :: u) (hu : u = [] ∨ StartsToken u)
    (hcs : ∀ e ∈ cs, e.2.isRequired = false ∧ e.2.line = y.position.line)
    (hend : rest = u ∧ crossed = true ∨ rest = '\n' :: u ∧ crossed = false) :
    (y.afterScalar cs s rest crossed).IsAtLine false (y.tokens ++ [scalarToken s]) u := by
  obtain ⟨index, line, hline, hgap⟩ :=
    exists_skipGap_afterScalar hindent houter hdepth hrest hu hend
  -- The candidates of the line above have lapsed, and none of them was required.
  have hlapsed : ∀ e ∈ cs, hasLapsed { lineStart false
      (y.tokens ++ [scalarToken s]) u index line with candidates := cs } e.2 = true ∧
        e.2.isRequired = false := by
    intro e he
    obtain ⟨hrequired, hsame⟩ := hcs e he
    have hne : e.2.line ≠ line := by
      rw [hsame]
      exact Nat.ne_of_lt hline
    exact ⟨by simp [hasLapsed, lineStart, hne], hrequired⟩
  refine ⟨index, line, ?_⟩
  rw [hgap, dropLapsed_of_lapsed hlapsed]
  rfl

/-! ## Marks and scalars -/

/-- The state behind the mark of a key or a value. -/
structure IsBehindMark (x : Lexer) (tokens : List Token) (rest : List Char) : Prop where
  rest : x.rest = ' ' :: rest
  tokens : x.tokens = tokens
  indent : x.indent = 0
  outer : x.outer = [-1]
  depth : x.depth = 0
  candidates : x.candidates = []

/-- A candidate that does not stand at the start of a line is not required. -/
theorem exists_saveCandidate (hdepth : y.depth = 0) (hindent : y.indent = 0)
    (hcolumn : y.column ≠ 0) (hnone : y.candidates = []) :
    ∃ cs, y.saveCandidate = .ok { y with candidates := cs } ∧
      ∀ e ∈ cs, e.2.isRequired = false ∧ e.2.line = y.position.line := by
  by_cases hallowed : y.allowsKey = true
  · have hrequired : (y.indent == (y.column : Int)) = false := by
      rw [hindent]
      exact beq_eq_false_iff_ne.mpr (by omega)
    refine ⟨[(0, ⟨y.tokens.length, false, y.position.index, y.position.line, y.column⟩)], ?_,
      by simp⟩
    simp only [Lexer.column] at hrequired
    simp [saveCandidate, hallowed, dropCandidate, candidate?, forget, hnone, hdepth, Except.map,
      Lexer.column, hrequired]
  · refine ⟨[], ?_, by simp⟩
    rw [saveCandidate, if_neg hallowed, ← hnone]

/-- What is behind a mark is not at the start of a line. -/
theorem IsBehindMark.exists_skipGap (h : x.IsBehindMark T t) (ht : StartsToken t) :
    ∃ y, x.skipGap.dropLapsed = .ok y ∧ y.rest = t ∧ y.column ≠ 0 ∧ y.tokens = T ∧ y.indent = 0 ∧
      y.outer = [-1] ∧ y.depth = 0 ∧ y.candidates = [] := by
  have hspace : isBreak ' ' = false := rfl
  have hmark : ' ' ≠ Text.Utf8.byteOrderMark := by decide
  have hposition : x.position.next
      = ⟨t, x.position.index + 1, x.position.line, x.position.column + 1⟩ := by
    have hrest : x.position.rest = ' ' :: t := h.rest
    simp [Position.next, hrest, hspace, hmark]
  refine ⟨x.advance 1, ?_, ?_, ?_, h.tokens, h.indent, h.outer, h.depth, h.candidates⟩
  · rw [skipGap_space h.rest ht]
    refine dropLapsed_eq_self fun e he ↦ ?_
    rw [show (x.advance 1).candidates = [] from h.candidates] at he
    contradiction
  · rw [advance, Lexer.rest, Position.skip, Position.skip, hposition]
  · rw [advance, Lexer.column, Position.skip, Position.skip, hposition]
    exact Nat.succ_ne_zero _

/-- A scalar behind a mark, up to the end of its line. -/
theorem exists_next_scalar (h : x.IsBehindMark T (writeScalar true column s ++ '\n' :: u))
    (hu : StartsLine u) :
    ∃ y, x.next = .ok (y, false) ∧ y.IsAtLine false (T ++ [scalarToken s]) u := by
  obtain ⟨rest, crossed, hend, hrest⟩ := exists_endsScalar_break Nat.one_pos hu s
  have hstart := (startsLine_writeScalar true column s fun h ↦ (hend.plain h).run).1
  obtain ⟨y, hgap, hy, hcolumn, rfl, hindent, houter, hdepth, hnone⟩ := h.exists_skipGap hstart
  obtain ⟨cs, hsave, hcs⟩ := exists_saveCandidate hdepth hindent hcolumn hnone
  have hends : EndsScalar (y.indent + 1).toNat s ('\n' :: u) rest crossed := by
    rw [hindent]
    exact hend
  obtain ⟨c, after, hfirst, htoken⟩ := token_scalar hdepth (Int.le_of_eq hindent) hy hends hsave
  refine ⟨_, next_of_token hgap (Int.le_of_eq hindent) hfirst htoken, ?_⟩
  exact isAtLine_afterScalar hindent houter hdepth hy hu.token hcs hrest

/-- The token of the start of a mapping, if it is yet to be opened. -/
def opening (isFirst : Bool) : List Token :=
  if isFirst then [.blockMappingStart] else []

theorem indent_lineStart_le (isFirst : Bool) (T : List Token) (rest : List Char)
    (index line : Nat) : (lineStart isFirst T rest index line).indent ≤ 0 := by
  cases isFirst
  · exact Int.le_refl 0
  · exact Int.negSucc_le_zero 0

/-- The mark of a key at the start of a line. -/
theorem exists_next_keyMark (h : x.IsAtLine isFirst T ('?' :: ' ' :: u)) :
    ∃ y, x.next = .ok (y, false) ∧ y.IsBehindMark (T ++ opening isFirst ++ [.key]) u := by
  obtain ⟨index, line, hgap⟩ := h
  obtain ⟨y, htoken, hy⟩ : ∃ y, (lineStart isFirst T ('?' :: ' ' :: u) index line).keyMark = .ok y ∧
      y.IsBehindMark (T ++ opening isFirst ++ [.key]) u := by
    cases isFirst
    · refine ⟨_, rfl, rfl, ?_, rfl, rfl, rfl, rfl⟩
      rw [opening, if_neg Bool.false_ne_true, List.append_nil]
      rfl
    · exact ⟨_, rfl, rfl, rfl, rfl, rfl, rfl, rfl⟩
  refine ⟨y, next_of_token hgap (indent_lineStart_le ..) rfl ?_, hy⟩
  rw [token_question rfl, htoken]

/-- The mark of a value at the start of a line. -/
theorem exists_next_valueMark (h : x.IsAtLine false T (':' :: ' ' :: u)) :
    ∃ y, x.next = .ok (y, false) ∧ y.IsBehindMark (T ++ [.value]) u := by
  obtain ⟨index, line, hgap⟩ := h
  refine ⟨_, next_of_token hgap (indent_lineStart_le ..) rfl (token_colon rfl), ?_⟩
  exact ⟨rfl, rfl, rfl, rfl, rfl, rfl⟩

/-! ## Keys without marks -/

/-- The state at the colon behind a scalar of `length` characters, which may turn out to be a key.
At the start of a line of an open mapping it has to. -/
def atColon (isFirst : Bool) (tokens : List Token) (length : Nat) (scalar : Token)
    (rest : List Char) (index line column : Nat) : Lexer :=
  { lineStart isFirst (tokens ++ [scalar]) rest index line with
    position := ⟨':' :: ' ' :: rest, index + length, line, column⟩
    allowsKey := false
    candidates := [(0, ⟨tokens.length, !isFirst, index, line, 0⟩)] }

theorem isBreak_of_mem_writeScalar (hs : isMultiline s = false)
    (hc : c ∈ writeScalar false column s) : isBreak c = false := by
  obtain hascii | rfl := isAsciiText_of_mem_writeScalar hc
  · exact isBreak_of_isAsciiText hascii
  · exact absurd hc (not_mem_writeScalar hs)

theorem exists_next_key (hs : isMultiline s = false)
    (h : x.IsAtLine isFirst T (writeScalar false 0 s ++ ':' :: ' ' :: u)) :
    ∃ index line column, x.next = .ok
      (atColon isFirst T (writeScalar false 0 s).length (scalarToken s) u index line column,
        false) := by
  obtain ⟨index, line, hgap⟩ := h
  obtain ⟨y, hy⟩ : ∃ y, y =
      lineStart isFirst T (writeScalar false 0 s ++ ':' :: ' ' :: u) index line := ⟨_, rfl⟩
  have hrest : y.rest = writeScalar false 0 s ++ ':' :: ' ' :: u := by rw [hy]; rfl
  have hdepth : y.depth = 0 := by rw [hy]; rfl
  have hindent : y.indent ≤ 0 := by rw [hy]; exact indent_lineStart_le ..
  have hsave : y.saveCandidate
      = .ok { y with candidates := [(0, ⟨T.length, !isFirst, index, line, 0⟩)] } := by
    rw [hy]
    cases isFirst <;> rfl
  obtain ⟨c, after, hfirst, htoken⟩ := token_scalar hdepth hindent hrest endsScalar_colon hsave
  obtain ⟨column, hskip⟩ := Position.skip_text (fun c hc ↦ isBreak_of_mem_writeScalar hs hc) hrest
  have hposition : y.position.skipTo (':' :: ' ' :: u) = _ :=
    (Position.skipTo_of_rest hrest).trans hskip
  rw [← hy] at hgap
  refine ⟨index, line, column, (next_of_token hgap hindent hfirst htoken).trans ?_⟩
  rw [afterScalar, hposition, hy]
  rfl

section

variable {length index line : Nat} {scalar : Token}

theorem skipGap_atColon : (atColon isFirst T length scalar u index line column).skipGap
    = atColon isFirst T length scalar u index line column :=
  skipGap_eq_self (.inr ⟨':', ' ' :: u, rfl, by decide, by decide, by decide⟩)

theorem hasLapsed_atColon : (atColon isFirst T length scalar u index line column).hasLapsed
    ⟨T.length, !isFirst, index, line, 0⟩ = decide (maxKeyLength < length) := by
  simp [hasLapsed, atColon]

/-- At the colon behind a scalar that is not too long, the scalar was a key. -/
theorem exists_next_atColon (hlength : length ≤ maxKeyLength) :
    ∃ y, (atColon isFirst T length scalar u index line column).next = .ok (y, false) ∧
      y.IsBehindMark (T ++ opening isFirst ++ [.key, scalar, .value]) u := by
  have hgap : (atColon isFirst T length scalar u index line column).skipGap.dropLapsed
      = .ok (atColon isFirst T length scalar u index line column) := by
    rw [skipGap_atColon]
    refine dropLapsed_eq_self fun e he ↦ ?_
    rw [atColon, List.mem_singleton] at he
    rw [he, hasLapsed_atColon]
    exact decide_eq_false (Nat.not_lt.mpr hlength)
  obtain ⟨y, hmark, hy⟩ : ∃ y,
      (atColon isFirst T length scalar u index line column).valueMark = .ok y ∧
        y.IsBehindMark (T ++ opening isFirst ++ [.key, scalar, .value]) u := by
    have htake : (T ++ [scalar]).take T.length = T := List.take_left
    have hdrop : (T ++ [scalar]).drop T.length = [scalar] := List.drop_left
    -- The mark goes in front of the scalar, and in the first line the mapping in front of that.
    cases isFirst
    · refine ⟨_, rfl, rfl, ?_, rfl, rfl, rfl, rfl⟩
      change (T ++ [scalar]).take T.length ++ [.key] ++ (T ++ [scalar]).drop T.length
        ++ [.value] = _
      rw [htake, hdrop]
      simp [opening]
    · refine ⟨_, rfl, rfl, ?_, rfl, rfl, rfl, rfl⟩
      change (T ++ [scalar]).take T.length ++ [.blockMappingStart, .key]
        ++ (T ++ [scalar]).drop T.length ++ [.value] = _
      rw [htake, hdrop]
      simp [opening]
  refine ⟨y, next_of_token hgap ?_ rfl ((token_colon rfl).trans hmark), hy⟩
  exact indent_lineStart_le isFirst (T ++ [scalar]) u index line

/-- At the colon behind a scalar that is too long, the text is malformed: the candidate has lapsed,
and without it no value may follow. -/
theorem run_atColon {fuel : Nat} (hlength : maxKeyLength < length) :
    run (fuel + 1) (atColon isFirst T length scalar u index line column)
      = T ++ [scalar, .fault .malformed] := by
  obtain ⟨x, hx⟩ : ∃ x, x = atColon isFirst T length scalar u index line column := ⟨_, rfl⟩
  have hlapsed : ∀ e ∈ x.candidates, x.hasLapsed e.2 = true := by
    intro e he
    rw [hx, atColon, List.mem_singleton] at he
    rw [he, hx, hasLapsed_atColon, decide_eq_true hlength]
  have hnext : x.next = .error .malformed := by
    have hgap : x.skipGap = x := by
      rw [hx]
      exact skipGap_atColon
    -- In an open mapping the candidate is required; in the first line it is only dropped.
    cases isFirst
    · have hmem : (0, ⟨T.length, true, index, line, 0⟩) ∈ x.candidates := by
        rw [hx]
        exact List.mem_singleton.mpr rfl
      rw [next, hgap, dropLapsed_of_required hmem (hlapsed _ hmem) rfl]
    · have hdrop : x.skipGap.dropLapsed = .ok { x with candidates := [] } := by
        rw [hgap]
        refine dropLapsed_of_lapsed fun e he ↦ ⟨hlapsed e he, ?_⟩
        rw [hx, atColon, List.mem_singleton] at he
        rw [he]
        rfl
      have hrest : { x with candidates := [] }.rest = ':' :: ' ' :: u := by rw [hx]; rfl
      have hindent : { x with candidates := [] }.indent ≤ 0 := by
        rw [hx]
        exact indent_lineStart_le true (T ++ [scalar]) u index line
      rw [next_eq hdrop hindent hrest, token_colon hrest, hx]
      rfl
  have hsettled : x.settled = T ++ [scalar] := by
    rw [settled_of_lapsed hlapsed, hx]
    rfl
  rw [← hx, run, hnext]
  simp only [hsettled, List.append_assoc, List.singleton_append]

end

/-! ## Entries -/

theorem run_next {fuel : Nat} (h : x.next = .ok (y, false)) : run (fuel + 1) x = run fuel y := by
  rw [run, h]

/-- **The tokens of an entry**, up to the start of the line behind it. -/
theorem exists_run_entry {key value : List Char} {fuel : Nat} (hkey : FitsKey key)
    (hu : StartsLine u) (h : x.IsAtLine isFirst T (writeEntry key value ++ u))
    (hfuel : (writeEntry key value ++ u).length < fuel) :
    ∃ y left, run fuel x = run left y ∧ u.length < left ∧
      y.IsAtLine false (T ++ opening isFirst ++ entryTokens (key, value)) u := by
  rw [writeEntry] at h hfuel
  -- A key, its colon and a value, or a mark, a key, a mark and a value.
  split at h
  · next hsimple =>
    rw [if_pos hsimple] at hfuel
    simp only [List.append_assoc, List.cons_append, List.nil_append] at h hfuel
    obtain ⟨index, line, column, hfirst⟩ := exists_next_key (isMultiline_of_isSimpleKey hsimple) h
    obtain ⟨y, hsecond, hy⟩ := exists_next_atColon (hkey hsimple)
    obtain ⟨z, hthird, hz⟩ := exists_next_scalar hy hu
    simp only [List.length_append, List.length_cons] at hfuel
    obtain ⟨left, rfl⟩ := Nat.exists_eq_add_of_le (show 3 ≤ fuel by omega)
    refine ⟨z, left, ?_, by omega, ?_⟩
    · rw [Nat.add_comm, run_next hfirst, run_next hsecond, run_next hthird]
    · rw [List.append_assoc] at hz
      exact hz
  · next hmarked =>
    rw [if_neg hmarked] at hfuel
    simp only [List.append_assoc, List.cons_append, List.nil_append] at h hfuel
    obtain ⟨w, hfirst, hw⟩ := exists_next_keyMark h
    obtain ⟨x, hsecond, hx⟩ := exists_next_scalar hw
      ⟨.inr ⟨_, _, rfl, by decide, by decide, by decide⟩,
        atDocumentMarker_cons (by decide) (by decide)⟩
    obtain ⟨y, hthird, hy⟩ := exists_next_valueMark hx
    obtain ⟨z, hfourth, hz⟩ := exists_next_scalar hy hu
    simp only [List.length_append, List.length_cons] at hfuel
    obtain ⟨left, rfl⟩ := Nat.exists_eq_add_of_le (show 4 ≤ fuel by omega)
    refine ⟨z, left, ?_, by omega, ?_⟩
    · rw [Nat.add_comm, run_next hfirst, run_next hsecond, run_next hthird, run_next hfourth]
    · simp only [List.append_assoc, List.cons_append, List.nil_append] at hz
      simpa [entryTokens] using hz

variable {entries : List (List Char × List Char)}

/-- The entries of an open mapping. -/
theorem exists_run_entries {fuel : Nat} (hkeys : ∀ e ∈ entries, FitsKey e.1) (hu : StartsLine u)
    (h : x.IsAtLine false T (writeEntries entries ++ u))
    (hfuel : (writeEntries entries ++ u).length < fuel) :
    ∃ y left, run fuel x = run left y ∧ u.length < left ∧
      y.IsAtLine false (T ++ entries.flatMap entryTokens) u := by
  -- On the entries; between two of them the lexer is at the start of a line.
  induction entries generalizing x T fuel with
  | nil =>
    refine ⟨x, fuel, rfl, hfuel, ?_⟩
    rw [List.flatMap_nil, List.append_nil]
    exact h
  | cons e entries ih =>
    rw [writeEntries_cons, List.append_assoc] at h hfuel
    obtain ⟨y, more, hrun, hmore, hy⟩ := exists_run_entry (hkeys e List.mem_cons_self)
      (startsLine_writeEntries hu entries) h hfuel
    rw [opening, if_neg Bool.false_ne_true, List.append_nil] at hy
    obtain ⟨z, left, hrun', hleft, hz⟩ :=
      ih (fun d hd ↦ hkeys d (List.mem_cons_of_mem e hd)) hy hmore
    refine ⟨z, left, hrun.trans hrun', hleft, ?_⟩
    rw [List.flatMap_cons, ← List.append_assoc]
    exact hz

/-- The first entries of a text. -/
theorem exists_run_start (hkeys : ∀ e ∈ entries, FitsKey e.1) (hu : StartsLine u)
    (hstart : StartsToken (writeEntries entries ++ u)) :
    ∃ y left, Yaml.tokens (writeEntries entries ++ u) = run left y ∧ u.length < left ∧
      y.IsAtLine entries.isEmpty (openTokens entries) u := by
  have hinitial : IsAtLine { position := { rest := writeEntries entries ++ u } } true []
      (writeEntries entries ++ u) := by
    have hrest : rest { position := { rest := writeEntries entries ++ u } }
        = writeEntries entries ++ u := rfl
    rw [← hrest] at hstart
    exact ⟨0, 0, by rw [skipGap_eq_self (.inr hstart)]; rfl⟩
  cases entries with
  | nil => exact ⟨_, _, rfl, Nat.lt_succ_self _, hinitial⟩
  | cons e entries =>
    rw [writeEntries_cons, List.append_assoc] at hinitial ⊢
    obtain ⟨y, more, hrun, hmore, hy⟩ := exists_run_entry (hkeys e List.mem_cons_self)
      (startsLine_writeEntries hu entries) hinitial (Nat.lt_succ_self _)
    obtain ⟨z, left, hrun', hleft, hz⟩ :=
      exists_run_entries (fun d hd ↦ hkeys d (List.mem_cons_of_mem e hd)) hu hy hmore
    exact ⟨z, left, hrun.trans hrun', hleft, hz⟩

/-- The end of a mapping. -/
theorem run_end {fuel : Nat} (h : x.IsAtLine false T []) : run (fuel + 1) x = T ++ [.blockEnd] := by
  obtain ⟨index, line, hgap⟩ := h
  have hunwind : (lineStart false T [] index line).unwind (lineStart false T [] index line).column
      = lineStart false T [] index line := unwind_of_le (Int.le_refl 0)
  rw [run, next, hgap]
  simp only [hunwind]
  rfl

end Lexer

/-- **The tokens of a mapping.** -/
theorem tokens_writeEntries {entries : List (List Char × List Char)} (hne : entries ≠ [])
    (hkeys : ∀ e ∈ entries, FitsKey e.1) :
    tokens (writeEntries entries) = openTokens entries ++ [.blockEnd] := by
  have hend : StartsLine [] := ⟨.inl rfl, rfl⟩
  have hstart : StartsToken (writeEntries entries ++ []) :=
    startsToken_writeEntries fun h ↦ absurd h hne
  obtain ⟨y, left, hrun, hleft, hy⟩ := Lexer.exists_run_start hkeys hend hstart
  obtain ⟨fuel, rfl⟩ := Nat.exists_eq_succ_of_ne_zero (Nat.ne_of_gt hleft)
  rw [List.isEmpty_eq_false_iff.mpr hne] at hy
  rw [List.append_nil] at hrun
  rw [hrun, Lexer.run_end hy]

/-- The tokens of a mapping up to a key that is too long: the text stops there. -/
theorem tokens_of_not_fitsKey {entries : List (List Char × List Char)} {key : List Char}
    (hkeys : ∀ e ∈ entries, FitsKey e.1) (hkey : ¬ FitsKey key) (value u : List Char) :
    tokens (writeEntries entries ++ (writeEntry key value ++ u))
      = openTokens entries ++ [scalarToken key, .fault .malformed] := by
  obtain ⟨hsimple, hlong⟩ := Classical.not_imp.mp hkey
  have hstart : StartsToken (writeEntries entries ++ (writeEntry key value ++ u)) :=
    startsToken_writeEntries fun _ ↦ (writeEntry_starts key value u).1
  obtain ⟨y, left, hrun, hleft, hy⟩ :=
    Lexer.exists_run_start hkeys (startsLine_writeEntry key value u) hstart
  rw [writeEntry, if_pos hsimple] at hy hleft
  simp only [List.append_assoc, List.cons_append] at hy
  obtain ⟨index, line, column, hnext⟩ :=
    Lexer.exists_next_key (isMultiline_of_isSimpleKey hsimple) hy
  simp only [List.length_append, List.length_cons] at hleft
  obtain ⟨fuel, rfl⟩ := Nat.exists_eq_add_of_le (show 2 ≤ left by omega)
  rw [hrun, Nat.add_comm, Lexer.run_next hnext, Lexer.run_atColon (Nat.not_le.mp hlong)]

end TableProperties.Yaml
