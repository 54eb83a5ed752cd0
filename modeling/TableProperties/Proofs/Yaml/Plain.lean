import Mathlib.Data.List.TakeWhile
import TableProperties.Proofs.Yaml.Quoted
import TableProperties.Yaml.Text.Plain

/-!
# Plain scalars are read back

A text that can be written plain consists of words with spaces between them. The reader takes one
word at a time and looks at the white space behind it: as long as a word follows on the same line,
or on a line that goes on, the scalar goes on, and spaces or a line end count as the writer meant
them.

## Main statements

* `readPlain_writeWords`: a plain text is read as it was written, up to what ends it.
* `endsPlain_colon`, `endsPlain_break`: a key's colon and the end of a line end it.
-/

namespace TableProperties.Yaml

variable {c d : Char} {s t u rest front back : List Char} {wraps crossed : Bool}
  {column indent : Nat} {before : Option Char}

/-! ## Texts that can be written plain -/

/-- Printable ASCII in which no colon ends a word, no number sign starts one behind a space, and no
space stands at the end. -/
structure IsWords (s : List Char) : Prop where
  chars : ∀ c ∈ s, isAsciiText c = true
  colon : ∀ front back, s = front ++ ':' :: back → endsOr (· == ' ') back = false
  sharp : ∀ front back, s ≠ front ++ ' ' :: '#' :: back
  last : s.getLast? ≠ some ' '

/-- What follows a part of such a text is such a text. -/
theorem IsWords.of_append (h : IsWords (s ++ t)) : IsWords t where
  chars c hc := h.chars c (List.mem_append_right s hc)
  colon front back e := h.colon (s ++ front) back (by rw [e, List.append_assoc])
  sharp front back e := h.sharp (s ++ front) back (by rw [e, List.append_assoc])
  last e := h.last (by rw [List.getLast?_append, e, Option.some_or])

theorem not_hasInnerMark_colon (h : hasInnerMark (c :: (front ++ ':' :: back)) = false) :
    endsOr (· == ' ') back = false := by
  induction front generalizing c with
  | nil =>
    rw [List.nil_append, hasInnerMark] at h
    simp only [beq_self_eq_true, Bool.true_and, Bool.or_eq_false_iff] at h
    exact h.1.1
  | cons d front ih =>
    rw [List.cons_append, hasInnerMark, Bool.or_eq_false_iff] at h
    exact ih h.2

theorem hasInnerMark_sharp : hasInnerMark (front ++ ' ' :: '#' :: back) = true := by
  induction front with
  | nil => simp [hasInnerMark]
  | cons c front ih =>
    obtain ⟨d, rest, hrest⟩ := List.exists_cons_of_ne_nil
      (List.append_ne_nil_of_right_ne_nil front (List.cons_ne_nil ' ' ('#' :: back)))
    rw [hrest] at ih
    rw [List.cons_append, hrest, hasInnerMark, ih, Bool.or_true]

theorem isWords_of_isPlainText (h : isPlainText s = true) : IsWords s := by
  simp only [isPlainText, Bool.and_eq_true, Bool.not_eq_true'] at h
  obtain ⟨⟨⟨⟨⟨⟨hspecial, hlines⟩, houter⟩, -⟩, hstart⟩, hinner⟩, -⟩ := h
  refine ⟨?_, ?_, ?_, ?_⟩
  · intro c hc
    refine (isAsciiText_of_hasSpecial hspecial c hc).resolve_right ?_
    rintro rfl
    exact List.any_eq_false.mp hlines _ hc (by decide)
  · rintro front back rfl
    cases front with
    | nil => simpa [startsMark] using hstart
    | cons c front => exact not_hasInnerMark_colon hinner
  · rintro front back rfl
    rw [hasInnerMark_sharp] at hinner
    contradiction
  · intro hlast
    simp [hasOuterSpace, hlast] at houter

/-- A plain text starts with a character that is no space and starts no comment. -/
theorem exists_cons_of_isPlainText (h : isPlainText s = true) :
    ∃ c rest, s = c :: rest ∧ c ≠ ' ' ∧ c ≠ '#' := by
  cases s with
  | nil => exact absurd h (by decide)
  | cons c rest =>
    simp only [isPlainText, Bool.and_eq_true, Bool.not_eq_true'] at h
    obtain ⟨⟨⟨⟨⟨-, houter⟩, -⟩, hstart⟩, -⟩, -⟩ := h
    refine ⟨c, rest, rfl, ?_, ?_⟩
    · rintro rfl
      simp [hasOuterSpace] at houter
    · rintro rfl
      simp [startsMark] at hstart

/-! ## Words and the spaces between them -/

/-- A text is a word, or a word with spaces and a text behind it. -/
theorem exists_word (hs : s ≠ []) (hfirst : s.head? ≠ some ' ') (hlast : s.getLast? ≠ some ' ') :
    ∃ word, word ≠ [] ∧ ' ' ∉ word ∧ (s = word ∨ ∃ n more,
      s = word ++ (List.replicate (n + 1) ' ' ++ more) ∧ more ≠ [] ∧ more.head? ≠ some ' ') := by
  refine ⟨s.takeWhile (· != ' '), ?_, ?_, ?_⟩
  · obtain ⟨c, rest, rfl⟩ := List.exists_cons_of_ne_nil hs
    rw [List.takeWhile_cons_of_pos (by simpa using hfirst)]
    exact List.cons_ne_nil _ _
  · intro hmem
    exact absurd (List.mem_takeWhile_imp hmem) (by decide)
  · have hsplit := List.takeWhile_append_dropWhile (p := (· != ' ')) (l := s)
    cases htail : s.dropWhile (· != ' ') with
    | nil =>
      rw [htail, List.append_nil] at hsplit
      exact .inl hsplit.symm
    | cons c tail =>
      rw [htail] at hsplit
      have hc : c = ' ' := by
        have hhead := List.head?_dropWhile_not (· != ' ') s
        rw [htail] at hhead
        simpa using hhead
      subst hc
      have hspaces : tail.takeWhile (· == ' ')
          = List.replicate (tail.takeWhile (· == ' ')).length ' ' := by
        refine List.eq_replicate_iff.mpr ⟨rfl, fun d hd ↦ ?_⟩
        have hspace := List.mem_takeWhile_imp hd
        exact beq_iff_eq.mp hspace
      have hmore := List.takeWhile_append_dropWhile (p := (· == ' ')) (l := tail)
      refine .inr ⟨(tail.takeWhile (· == ' ')).length, tail.dropWhile (· == ' '), ?_, ?_, ?_⟩
      · rw [List.replicate_succ, ← hspaces, List.cons_append, hmore, hsplit]
      · intro hnil
        rw [hnil, List.append_nil] at hmore
        refine hlast ?_
        rw [← hsplit, List.getLast?_append, ← hmore, hspaces, ← List.replicate_succ,
          List.getLast?_replicate]
        rfl
      · intro hhead
        have hnot := List.head?_dropWhile_not (· == ' ') tail
        rw [hhead] at hnot
        simp at hnot

/-- A run of characters that the reader takes as a whole. -/
structure IsRun (word : List Char) : Prop where
  ne_nil : word ≠ []
  gap : ∀ c ∈ word, isGapOrBreak c = false
  colon : word.getLast? ≠ some ':'
  sharp : word.head? ≠ some '#'

theorem IsWords.isRun {word : List Char} (h : IsWords (word ++ t)) (hne : word ≠ [])
    (hspace : ' ' ∉ word) (hsharp : word.head? ≠ some '#') (ht : endsOr (· == ' ') t = true) :
    IsRun word := by
  refine ⟨hne, fun c hc ↦ ?_, fun hlast ↦ ?_, hsharp⟩
  · exact isGapOrBreak_eq_false (h.chars c (List.mem_append_left t hc)) fun e ↦ hspace (e ▸ hc)
  · obtain ⟨front, rfl⟩ := List.getLast?_eq_some_iff.mp hlast
    have hcolon := h.colon front t (List.append_cons front ':' t).symm
    rw [ht] at hcolon
    contradiction

/-- A run without white space is written as it is. -/
theorem writeWords_run (wraps : Bool) (column : Nat) (before : Option Char) {word : List Char}
    (h : ∀ c ∈ word, isGapOrBreak c = false) (s : List Char) :
    ∃ after last, writeWords wraps false column before (word ++ s)
      = word ++ writeWords wraps false after last s := by
  induction word generalizing column before with
  | nil => exact ⟨column, before, rfl⟩
  | cons c word ih =>
    have hc := h c List.mem_cons_self
    have hspace : c ≠ ' ' := by
      rintro rfl
      contradiction
    have hbreak : c ≠ '\n' := by
      rintro rfl
      contradiction
    obtain ⟨after, last, hword⟩ :=
      ih (column + 1) (some c) fun d hd ↦ h d (List.mem_cons_of_mem c hd)
    refine ⟨after, last, ?_⟩
    rw [List.cons_append, writeWords, if_neg hspace, if_neg hbreak, if_neg (by simp), hword]
    rfl

theorem writeWords_spaces (n : Nat) :
    writeWords wraps false column (some ' ') (List.replicate n ' ' ++ s)
      = List.replicate n ' ' ++ writeWords wraps false (column + n) (some ' ') s := by
  induction n generalizing column with
  | zero => rfl
  | succ n ih =>
    rw [List.replicate_succ, List.cons_append, writeWords, if_pos rfl, List.cons_append]
    simp [ih, Nat.add_assoc, Nat.add_comm 1]

/-- What may be written for spaces between words: the spaces, or a line end for a lone one. -/
def IsGapText (n : Nat) (gap : List Char) : Prop :=
  gap = List.replicate (n + 1) ' ' ∨ n = 0 ∧ gap = continuation

/-- The spaces behind a word. -/
theorem exists_writeWords_gap (wraps : Bool) (n column : Nat) (before : Option Char)
    (s : List Char) :
    ∃ gap after, IsGapText n gap ∧
      writeWords wraps false column before (List.replicate (n + 1) ' ' ++ s)
        = gap ++ writeWords wraps false after (some ' ') s := by
  rw [List.replicate_succ, List.cons_append, writeWords, if_pos rfl]
  simp only
  split
  · next hwraps =>
    have hn : n = 0 := by
      by_contra hn
      obtain ⟨m, rfl⟩ := Nat.exists_eq_succ_of_ne_zero hn
      simp [List.replicate_succ] at hwraps
    subst hn
    exact ⟨continuation, continuationColumn, .inr ⟨rfl, rfl⟩, rfl⟩
  · refine ⟨List.replicate (n + 1) ' ', column + 1 + n, .inl rfl, ?_⟩
    rw [writeWords_spaces, List.replicate_succ, List.cons_append]

theorem exists_cons_writeWords (wraps : Bool) (column : Nat) (before : Option Char)
    (s : List Char) (hspace : c ≠ ' ') (hbreak : c ≠ '\n') :
    ∃ u, writeWords wraps false column before (c :: s) = c :: u := by
  rw [writeWords, if_neg hspace, if_neg hbreak, if_neg (by simp)]
  exact ⟨_, rfl⟩

/-- A plain text starts with a run of characters, which is all of it or is followed by spaces and
another such text. It is written accordingly. -/
theorem exists_run_writeWords (hs : IsWords s) (hhead : ∀ c ∈ s.head?, c ≠ ' ' ∧ c ≠ '#')
    (hne : s ≠ []) (wraps : Bool) (column : Nat) (before : Option Char) :
    ∃ word, IsRun word ∧
      (s = word ∧ writeWords wraps false column before s = word ∨
        ∃ n more gap after, s = word ++ (List.replicate (n + 1) ' ' ++ more) ∧ IsWords more ∧
          (∀ c ∈ more.head?, c ≠ ' ' ∧ c ≠ '#') ∧ more ≠ [] ∧ IsGapText n gap ∧
          writeWords wraps false column before s
            = word ++ (gap ++ writeWords wraps false after (some ' ') more)) := by
  have hfirst : s.head? ≠ some ' ' := fun h ↦ (hhead _ h).1 rfl
  obtain ⟨word, hword, hspace, rfl | ⟨n, more, rfl, hmore, hstart⟩⟩ :=
    exists_word hne hfirst hs.last
  · have hlast : IsWords (s ++ []) := by rwa [List.append_nil]
    have hrun : IsRun s := hlast.isRun hne hspace (fun h ↦ (hhead _ h).2 rfl) rfl
    obtain ⟨after, last, hwrite⟩ := writeWords_run wraps column before hrun.gap []
    rw [List.append_nil, writeWords, List.append_nil] at hwrite
    exact ⟨s, hrun, .inl ⟨rfl, hwrite⟩⟩
  · have hsharp : word.head? ≠ some '#' := by
      intro h
      refine (hhead '#' ?_).2 rfl
      rw [List.head?_append, h]
      rfl
    have hrun : IsRun word := hs.isRun hword hspace hsharp rfl
    obtain ⟨middle, last, hwrite⟩ :=
      writeWords_run wraps column before hrun.gap (List.replicate (n + 1) ' ' ++ more)
    obtain ⟨gap, after, hgap, hwriteGap⟩ := exists_writeWords_gap wraps n middle last more
    rw [hwriteGap] at hwrite
    refine ⟨word, hrun, .inr ⟨n, more, gap, after, rfl, hs.of_append.of_append, ?_, hmore, hgap,
      hwrite⟩⟩
    rintro c hc
    obtain ⟨more, rfl⟩ := List.head?_eq_some_iff.mp hc
    refine ⟨by simpa using hstart, ?_⟩
    rintro rfl
    refine hs.sharp (word ++ List.replicate n ' ') more ?_
    rw [List.replicate_succ', List.append_assoc, List.append_assoc]
    rfl

/-! ## Reading words and gaps -/

/-- A run goes on up to white space, or up to what else ends it. -/
theorem runLength_run {word : List Char} (hgap : ∀ c ∈ word, isGapOrBreak c = false)
    (hcolon : word.getLast? ≠ some ':') (hend : runLength false u = 0) :
    runLength false (word ++ u) = word.length := by
  induction word with
  | nil => exact hend
  | cons c word ih =>
    have hc := hgap c List.mem_cons_self
    have hgo : endsRun false c (word ++ u) = false := by
      cases word with
      | nil =>
        have hne : c ≠ ':' := by simpa using hcolon
        simp [endsRun, hc, hne]
      | cons d word =>
        have hd := hgap d (by simp)
        simp [endsRun, hc, atGap, endsOr, hd]
    have hword : word.getLast? ≠ some ':' := by
      cases word with
      | nil => simp
      | cons d word => simpa using hcolon
    rw [List.cons_append, runLength, hgo, if_neg Bool.false_ne_true, List.length_cons,
      ih (fun c hc ↦ hgap c (List.mem_cons_of_mem _ hc)) hword]

theorem runLength_gapText {n : Nat} {gap : List Char} (h : IsGapText n gap) :
    runLength false (gap ++ u) = 0 := by
  obtain rfl | ⟨-, rfl⟩ := h
  · rfl
  · rfl

/-- The white space between words stands for the spaces for which it was written. -/
theorem exists_ofText_gapText {n : Nat} {gap : List Char} (h : IsGapText n gap) (hspace : c ≠ ' ')
    (hbreak : isBreak c = false) :
    ∃ after crossed, 1 ≤ after ∧ PlainGap.ofText column (gap ++ c :: u)
      = ⟨List.replicate (n + 1) ' ', c :: u, after, crossed⟩ := by
  obtain rfl | ⟨rfl, rfl⟩ := h
  · have hspaces : (List.replicate (n + 1) ' ' ++ c :: u).takeWhile (· == ' ')
        = List.replicate (n + 1) ' ' := by
      simp [hspace]
    have hrest : (List.replicate (n + 1) ' ' ++ c :: u).dropWhile (· == ' ') = c :: u := by
      simp [hspace]
    refine ⟨column + (n + 1), false, by omega, ?_⟩
    simp [PlainGap.ofText, hspaces, hrest, hbreak]
  · refine ⟨2, true, by decide, ?_⟩
    have hindentation : followingBreaks [] 0 (' ' :: ' ' :: c :: u) = (some [], c :: u, 2) := by
      simp [followingBreaks, hspace, hbreak]
    have hmarker : atDocumentMarker (' ' :: ' ' :: c :: u) = false :=
      atDocumentMarker_cons (by decide) (by decide)
    simp [PlainGap.ofText, continuation, isBreak, unifiedBreak, hindentation, hmarker]

/-- What ends a plain scalar: text behind which it cannot go on, whatever column it stands in. -/
structure EndsPlain (indent : Nat) (t rest : List Char) (crossed : Bool) : Prop where
  run : runLength false t = 0
  gap : ∀ column, ∃ text after, PlainGap.ofText column t = ⟨text, rest, after, crossed⟩ ∧
    (text.isEmpty || rest.head? == some '#' || decide (after < indent)) = true

/-- The colon behind a key. -/
theorem endsPlain_colon : EndsPlain indent (':' :: ' ' :: u) (':' :: ' ' :: u) false where
  run := rfl
  gap column := ⟨[], column, rfl, rfl⟩

/-- The end of a line, if the next line does not go on. -/
theorem endsPlain_break (hindent : 0 < indent) (hmarker : atDocumentMarker u = false)
    (hu : ∀ c ∈ u.head?, c ≠ ' ' ∧ isBreak c = false) :
    EndsPlain indent ('\n' :: u) u true where
  run := rfl
  gap column := by
    refine ⟨[' '], 0, ?_, by simp [hindent]⟩
    have hline : followingBreaks [] 0 u = (some [], u, 0) := by
      cases u with
      | nil => rfl
      | cons c u =>
        obtain ⟨hspace, hbreak⟩ := hu c rfl
        simp [followingBreaks, hspace, hbreak]
    simp [PlainGap.ofText, isBreak, unifiedBreak, hline, hmarker]

/-! ## Reading plain scalars -/

section

variable {word text : List Char} {fuel start : Nat} {crossing : Bool}

theorem readPlainFrom_run (h : IsRun word) (hend : runLength false u = 0) {next : PlainGap}
    (hnext : PlainGap.ofText (start + width word) u = next) :
    readPlainFrom false indent (fuel + 1) ⟨text, word ++ u, start, crossing⟩
      = if next.text.isEmpty || next.rest.head? == some '#' || decide (next.column < indent) then
          ⟨text ++ word, next.rest, next.crossed⟩
        else
          let more := readPlainFrom false indent fuel next
          ⟨text ++ word ++ more.text, more.rest, more.crossed⟩ := by
  have hhead : (word ++ u).head? = word.head? := by
    rw [List.head?_append, Option.or_of_isSome]
    simpa using h.ne_nil
  have hlength : word.length ≠ 0 := by simpa using h.ne_nil
  simp only [readPlainFrom, runLength_run h.gap h.colon hend, hhead, hlength, h.sharp, or_self,
    if_false, List.take_left, List.drop_left, hnext, Bool.not_false, Bool.true_and]

/-- The last word of a scalar. -/
theorem readPlainFrom_last (h : IsRun word) (hend : EndsPlain indent t rest crossed) :
    readPlainFrom false indent (fuel + 1) ⟨text, word ++ t, start, crossing⟩
      = ⟨text ++ word, rest, crossed⟩ := by
  obtain ⟨gapText, after, hnext, hstop⟩ := hend.gap (start + width word)
  rw [readPlainFrom_run h hend.run hnext, if_pos hstop]

/-- A word behind which the scalar goes on. -/
theorem readPlainFrom_more {n : Nat} {gap : List Char} (h : IsRun word) (hgap : IsGapText n gap)
    (hspace : c ≠ ' ') (hbreak : isBreak c = false) (hsharp : c ≠ '#') (hindent : indent ≤ 1)
    (hread : ∀ start crossing,
      readPlainFrom false indent fuel ⟨List.replicate (n + 1) ' ', c :: u, start, crossing⟩
        = ⟨List.replicate (n + 1) ' ' ++ s, rest, crossed⟩) :
    readPlainFrom false indent (fuel + 1) ⟨text, word ++ (gap ++ c :: u), start, crossing⟩
      = ⟨text ++ (word ++ (List.replicate (n + 1) ' ' ++ s)), rest, crossed⟩ := by
  obtain ⟨next, line, hcolumn, hnext⟩ := exists_ofText_gapText hgap hspace hbreak
  have hgo : ¬ next < indent := by omega
  rw [readPlainFrom_run h (runLength_gapText hgap) hnext, if_neg (by simp [hsharp, hgo])]
  simp only [hread, List.append_assoc]

theorem readPlainFrom_writeWords (hs : IsWords s) (hhead : ∀ c ∈ s.head?, c ≠ ' ' ∧ c ≠ '#')
    (hne : s ≠ []) (hindent : indent ≤ 1) (hend : EndsPlain indent t rest crossed)
    (hfuel : (writeWords wraps false column before s ++ t).length < fuel) :
    readPlainFrom false indent fuel
        ⟨text, writeWords wraps false column before s ++ t, start, crossing⟩
      = ⟨text ++ s, rest, crossed⟩ := by
  induction fuel generalizing s column before text start crossing with
  | zero => omega
  | succ fuel ih =>
    obtain ⟨word, hrun, ⟨rfl, hwrite⟩ | ⟨n, more, gap, after, rfl, hwords, hstart, hmore, hgap,
      hwrite⟩⟩ := exists_run_writeWords hs hhead hne wraps column before
    · rw [hwrite]
      exact readPlainFrom_last hrun hend
    · rw [hwrite, List.append_assoc, List.append_assoc] at hfuel ⊢
      have hshort : (writeWords wraps false after (some ' ') more ++ t).length < fuel := by
        have hpos := List.length_pos_iff.mpr hrun.ne_nil
        simp only [List.length_append] at hfuel ⊢
        omega
      obtain ⟨c, more, rfl⟩ := List.exists_cons_of_ne_nil hmore
      -- The next word starts with a character that is no white space and starts no comment.
      obtain ⟨hspace, hsharp⟩ := hstart c rfl
      have hblank := isGapOrBreak_eq_false (hwords.chars c List.mem_cons_self) hspace
      rw [isGapOrBreak, Bool.or_eq_false_iff] at hblank
      have hbreak : c ≠ '\n' := by
        rintro rfl
        exact absurd hblank.2 (by decide)
      obtain ⟨w, hw⟩ := exists_cons_writeWords wraps after (some ' ') more hspace hbreak
      rw [hw, List.cons_append]
      refine readPlainFrom_more hrun hgap hspace hblank.2 hsharp hindent fun start crossing ↦ ?_
      rw [← List.cons_append, ← hw]
      exact ih hwords hstart hmore hshort

end

/-- A plain text is read as it was written, up to what ends it. -/
theorem readPlain_writeWords (h : isPlainText s = true) (hindent : indent ≤ 1)
    (hend : EndsPlain indent t rest crossed) (wraps : Bool) (column start : Nat) :
    readPlain false indent start (writeWords wraps false column none s ++ t)
      = ⟨s, rest, crossed⟩ := by
  obtain ⟨c, more, rfl, hspace, hsharp⟩ := exists_cons_of_isPlainText h
  exact readPlainFrom_writeWords (isWords_of_isPlainText h) (by simp [hspace, hsharp])
    (List.cons_ne_nil c more) hindent hend (Nat.lt_succ_self _)

/-! ## The start of a plain scalar -/

/-- The first character of a plain scalar and the text after it: the character means nothing else,
and the text is no document marker. -/
structure StartsPlain (c : Char) (after : List Char) : Prop where
  ascii : isAsciiText c = true
  space : c ≠ ' '
  indicator : "#,[]\x7b\x7d&*!|>'\"%@\x60".toList.contains c = false
  mark : c = '?' ∨ c = ':' ∨ c = '-' → atGap after = false
  marker : atDocumentMarker (c :: after) = false

theorem ne_of_endsRun (h : endsRun false c rest = true) : c ≠ '-' ∧ c ≠ '.' := by
  constructor
  · rintro rfl
    exact absurd h (by simp [endsRun, isGapOrBreak, isGap, isBreak])
  · rintro rfl
    exact absurd h (by simp [endsRun, isGapOrBreak, isGap, isBreak])

theorem exists_of_atDocumentMarker (h : atDocumentMarker s = true) :
    ∃ c rest, s = c :: c :: c :: rest ∧ (c = '-' ∨ c = '.') := by
  match s with
  | [] | [_] | [_, _] => contradiction
  | a :: b :: c :: rest =>
    simp only [atDocumentMarker, Bool.and_eq_true, Bool.or_eq_true, beq_iff_eq] at h
    obtain ⟨⟨⟨rfl, rfl⟩, hc⟩, -⟩ := h
    exact ⟨a, rest, rfl, hc⟩

/-- A run starts a document marker only by itself. -/
theorem atDocumentMarker_run {word tail : List Char} (hu : runLength false u = 0)
    (hword : startsMarker (word ++ tail) = false) : atDocumentMarker (word ++ u) = false := by
  have hhead {d : Char} {more : List Char} (hd : d = '-' ∨ d = '.') : u ≠ d :: more := by
    rintro rfl
    rw [runLength] at hu
    split at hu
    · next h =>
      obtain ⟨hdash, hstop⟩ := ne_of_endsRun h
      exact hd.elim hdash hstop
    · contradiction
  rw [← Bool.not_eq_true]
  intro hmarker
  obtain ⟨d, more, htext, hd⟩ := exists_of_atDocumentMarker hmarker
  obtain ⟨-, hmore⟩ | ⟨word, rfl, hsecond⟩ := List.append_eq_cons_iff.mp htext
  · exact hhead hd hmore
  · obtain ⟨-, hmore⟩ | ⟨word, rfl, hthird⟩ := List.append_eq_cons_iff.mp hsecond.symm
    · exact hhead hd hmore
    · obtain ⟨-, hmore⟩ | ⟨word, rfl, -⟩ := List.append_eq_cons_iff.mp hthird.symm
      · exact hhead hd hmore
      · rcases hd with rfl | rfl <;> simp [startsMarker] at hword

/-- A plain text and what ends it start with a run of characters of the text. -/
theorem exists_run_append (hs : IsWords s) (hhead : ∀ c ∈ s.head?, c ≠ ' ' ∧ c ≠ '#')
    (hne : s ≠ []) (ht : runLength false t = 0) (wraps : Bool) (column : Nat) :
    ∃ word u tail, IsRun word ∧ s = word ++ tail ∧ endsOr (· == ' ') tail = true ∧
      writeWords wraps false column none s ++ t = word ++ u ∧ runLength false u = 0 := by
  obtain ⟨word, hrun, ⟨hword, hwrite⟩ | ⟨n, later, gap, after, hword, -, -, -, hgap, hwrite⟩⟩ :=
    exists_run_writeWords hs hhead hne wraps column none
  · exact ⟨word, t, [], hrun, by rw [hword, List.append_nil], rfl, by rw [hwrite], ht⟩
  · refine ⟨word, gap ++ (writeWords wraps false after (some ' ') later ++ t), _, hrun, hword, rfl,
      ?_, runLength_gapText hgap⟩
    rw [hwrite, List.append_assoc, List.append_assoc]

theorem startsPlain_of_isPlainText (h : isPlainText s = true) (ht : runLength false t = 0)
    (wraps : Bool) (column : Nat) :
    ∃ c after, writeWords wraps false column none s ++ t = c :: after ∧ StartsPlain c after := by
  have hs := isWords_of_isPlainText h
  obtain ⟨c, more, rfl, hspace, hsharp⟩ := exists_cons_of_isPlainText h
  obtain ⟨word, u, tail, hrun, hword, htail, hwrite, hu⟩ := exists_run_append hs
    (by simp [hspace, hsharp]) (List.cons_ne_nil c more) ht wraps column
  obtain ⟨d, word, rfl⟩ := List.exists_cons_of_ne_nil hrun.ne_nil
  obtain ⟨rfl, rfl⟩ := List.cons.inj hword
  simp only [isPlainText, Bool.and_eq_true, Bool.not_eq_true'] at h
  obtain ⟨⟨⟨⟨-, hmarker⟩, hstart⟩, -⟩, -⟩ := h
  rw [startsMark, Bool.or_eq_false_iff] at hstart
  refine ⟨c, word ++ u, hwrite, hs.chars c List.mem_cons_self, hspace, hstart.1, fun hmark ↦ ?_, ?_⟩
  · cases word with
    | nil =>
      exfalso
      rcases hmark with rfl | rfl | rfl <;> simp [htail] at hstart
    | cons d word => exact hrun.gap d (by simp)
  · have hprefix : startsMarker ((c :: word) ++ tail) = false := hmarker
    have hnone : atDocumentMarker ((c :: word) ++ u) = false := atDocumentMarker_run hu hprefix
    exact hnone

end TableProperties.Yaml
