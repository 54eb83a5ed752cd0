import TableProperties.Proofs.Interval
import TableProperties.Proofs.Text.Lower
import TableProperties.Proofs.Text.Words

/-!
# The terms of an interval

An interval has a grammar of words: behind the keyword it is a list of terms, each of them a number
and a unit, and its length is the sum of the terms. The reader does not split the text into words.
It takes the longest runs of digits, white space and letters off the front, and looks at the
character behind the unit afterwards. What makes the two agree is that the three classes of
characters have nothing in common, so a run cannot take a part of the next one, and a word that is
longer than its run is no number and no unit.

## Main statements

* `Pair.ofFront?_eq_some_iff`: the pair at the front of a text, by the parts of the text.
* `exists_terms_of_microsOf`, `microsOf_of_terms`: the loop and the terms.
* `millisOfText_by_terms`: which texts are intervals, and how long they are.
-/

namespace TableProperties.Interval

open Text Integer

variable {s t : List Char} {p : Pair} {total m n : Int}

/-! ## Terms -/

/-- What may stand in front of a number. -/
inductive Sign where
  | none
  | plus
  | minus
  deriving DecidableEq, Repr

namespace Sign

/-- A sign as it is written. -/
def text : Sign → List Char
  | none => []
  | plus => ['+']
  | minus => ['-']

/-- Whether a sign is a minus. -/
def isNegative : Sign → Bool
  | minus => true
  | _ => false

end Sign

/-- One summand of an interval: an integer with a sign or without one and with digits of any script,
not more than are converted, and a unit in the singular or the plural. -/
structure Term where
  /-- The sign of the number. -/
  sign : Sign
  /-- The digits of the number. -/
  digits : List Char
  /-- The unit. -/
  unit : TimeUnit
  /-- Whether the unit is in the plural. -/
  isPlural : Bool
  /-- There is a digit. -/
  digits_ne_nil : digits ≠ []
  /-- The digits are decimal digits. -/
  isDigit_of_mem : ∀ c ∈ digits, isDigit c = true
  /-- There are not too many of them. -/
  length_digits_le : digits.length ≤ maxDigits

namespace Term

/-- The number of a term as it is written. -/
def number (t : Term) : List Char :=
  t.sign.text ++ t.digits

/-- The unit of a term as it is written. -/
def unitWord (t : Term) : List Char :=
  if t.isPlural then t.unit.name ++ ['s'] else t.unit.name

/-- The two words of a term. -/
def words (t : Term) : List (List Char) :=
  [t.number, t.unitWord]

/-- The length of a term in microseconds. -/
def micros (t : Term) : Int :=
  withSign t.sign.isNegative (decimalValue t.digits) * t.unit.micros

end Term

/-- The length of some terms in microseconds. -/
def totalMicros : List Term → Int
  | [] => 0
  | t :: rest => t.micros + totalMicros rest

@[simp] theorem totalMicros_nil : totalMicros [] = 0 := rfl

@[simp] theorem totalMicros_cons (t : Term) (rest : List Term) :
    totalMicros (t :: rest) = t.micros + totalMicros rest :=
  rfl

/-! ## Classes of characters -/

theorem isUnitLetter_iff {c : Char} : isUnitLetter c = true ↔ 0x61 ≤ c.toNat ∧ c.toNat ≤ 0x7a := by
  rw [isUnitLetter, Bool.and_eq_true, decide_eq_true_eq, decide_eq_true_eq, Char.le_def,
    Char.le_def, UInt32.le_iff_toNat_le, UInt32.le_iff_toNat_le]
  rfl

theorem not_isBlank_of_isUnitLetter {c : Char} (h : isUnitLetter c = true) : isBlank c = false := by
  obtain ⟨hleast, hgreatest⟩ := isUnitLetter_iff.mp h
  exact not_isBlank_of_missesBlanks (by decide) hleast hgreatest

theorem not_isDigit_of_isBlank {c : Char} (h : isBlank c = true) : isDigit c = false := by
  rw [Bool.eq_false_iff]
  intro hdigit
  exact absurd (not_isBlank_of_isDigit hdigit) (by simp [h])

theorem not_isUnitLetter_of_isBlank {c : Char} (h : isBlank c = true) :
    isUnitLetter c = false := by
  rw [Bool.eq_false_iff]
  intro hletter
  exact absurd (not_isBlank_of_isUnitLetter hletter) (by simp [h])

/-- Whether a text is a run of characters of one class. -/
def IsRun (p : Char → Bool) (s : List Char) : Prop :=
  s ≠ [] ∧ ∀ c ∈ s, p c = true

theorem IsRun.head?_append {p q : Char → Bool} (hs : IsRun p s)
    (hpq : ∀ c, p c = true → q c = false) : ∀ c ∈ (s ++ t).head?, q c = false := by
  obtain ⟨c, rest, rfl⟩ := List.exists_cons_of_ne_nil hs.1
  intro d hd
  obtain rfl := Option.some.inj hd
  exact hpq c (hs.2 c List.mem_cons_self)

theorem isRun_takeWhile {p : Char → Bool} (h : (s.takeWhile p).isEmpty = false) :
    IsRun p (s.takeWhile p) :=
  ⟨List.isEmpty_eq_false_iff.mp h, fun _ hc ↦ List.mem_takeWhile_imp hc⟩

/-! ## The pair at the front -/

/-- A sign is split off a text by its first character. -/
theorem exists_sign_of_splitSign (s : List Char) :
    ∃ sign : Sign, s = sign.text ++ (splitSign s).2 ∧ (splitSign s).1 = sign.isNegative := by
  unfold splitSign
  split
  · exact ⟨.minus, rfl, rfl⟩
  · exact ⟨.plus, rfl, rfl⟩
  · exact ⟨.none, rfl, rfl⟩

theorem splitSign_append (sign : Sign) (hs : IsRun isDigit s) :
    splitSign (sign.text ++ s ++ t) = (sign.isNegative, s ++ t) := by
  cases sign with
  | minus => rfl
  | plus => rfl
  | none =>
    obtain ⟨c, rest, rfl⟩ := List.exists_cons_of_ne_nil hs.1
    have hc := hs.2 c List.mem_cons_self
    rw [Sign.text, List.nil_append, List.cons_append]
    unfold splitSign
    split
    · next heq => exact absurd ((List.cons.inj heq).1 ▸ hc) (by decide +kernel)
    · next heq => exact absurd ((List.cons.inj heq).1 ▸ hc) (by decide +kernel)
    · rfl

/-- The pair at the front of a text, by the parts of the text. -/
theorem Pair.ofFront?_eq_some_iff :
    Pair.ofFront? s = some p ↔
      ∃ (sign : Sign) (blanks : List Char),
        s = sign.text ++ p.amount.digits ++ (blanks ++ (p.word ++ p.rest)) ∧
        p.amount.negative = sign.isNegative ∧ IsRun isDigit p.amount.digits ∧
        IsRun isBlank blanks ∧ IsRun isUnitLetter p.word ∧
        ∀ c ∈ p.rest.head?, isUnitLetter c = false := by
  constructor
  · intro h
    obtain ⟨sign, hs, hnegative⟩ := exists_sign_of_splitSign s
    simp only [Pair.ofFront?] at h
    split at h
    · exact absurd h (by simp)
    · next hne =>
      simp only [Bool.or_eq_true, not_or, Bool.not_eq_true] at hne
      obtain ⟨⟨hdigits, hblanks⟩, hword⟩ := hne
      obtain rfl := Option.some.inj h
      refine ⟨sign, _, ?_, hnegative, isRun_takeWhile hdigits, isRun_takeWhile hblanks,
        isRun_takeWhile hword, fun c hc ↦ eq_false_of_mem_head?_dropWhile hc⟩
      simp only [List.takeWhile_append_dropWhile, List.append_assoc]
      exact hs
  · rintro ⟨sign, blanks, rfl, hnegative, hdigits, hblanks, hword, hrest⟩
    have hdigit := hblanks.head?_append (t := p.word ++ p.rest) fun _ ↦ not_isDigit_of_isBlank
    have hblank := hword.head?_append (t := p.rest) fun _ ↦ not_isBlank_of_isUnitLetter
    simp only [Pair.ofFront?, splitSign_append sign hdigits,
      takeWhile_append_of_head? hdigits.2 hdigit, dropWhile_append_of_head? hdigits.2 hdigit,
      takeWhile_append_of_head? hblanks.2 hblank, dropWhile_append_of_head? hblanks.2 hblank,
      takeWhile_append_of_head? hword.2 hrest, dropWhile_append_of_head? hword.2 hrest,
      List.isEmpty_eq_false_iff.mpr hdigits.1, List.isEmpty_eq_false_iff.mpr hblanks.1,
      List.isEmpty_eq_false_iff.mpr hword.1, ← hnegative]
    rfl

/-! ## Units -/

theorem eq_or_eq_append_of_singular_eq {word name : List Char} (h : singular word = name) :
    word = name ∨ word = name ++ ['s'] := by
  unfold singular at h
  split at h
  · next hlast => exact .inr (h ▸ (List.dropLast_append_getLast? 's' hlast).symm)
  · exact .inl h

/-- The words for a unit are its name and its name with an `s`. -/
theorem unitOfWord_eq_ok_iff {word : List Char} {unit : TimeUnit} :
    unitOfWord word = .ok unit ↔ word = unit.name ∨ word = unit.name ++ ['s'] := by
  constructor
  · intro h
    unfold unitOfWord at h
    simp only at h
    split at h
    · exact absurd h (by simp)
    · split at h
      · next found hfind =>
        obtain rfl := Except.ok.inj h
        rw [TimeUnit.ofName?] at hfind
        have hname := List.find?_some hfind
        rw [beq_iff_eq] at hname
        exact eq_or_eq_append_of_singular_eq hname.symm
      · exact absurd h (by simp)
  · rintro (rfl | rfl)
    · cases unit <;> rfl
    · cases unit <;> rfl

theorem Term.unitOfWord_unitWord (t : Term) : unitOfWord t.unitWord = .ok t.unit := by
  rw [unitOfWord_eq_ok_iff, unitWord]
  by_cases h : t.isPlural = true
  · rw [if_pos h]
    exact .inr rfl
  · rw [if_neg h]
    exact .inl rfl

theorem Term.isRun_unitWord (t : Term) : IsRun isUnitLetter t.unitWord := by
  have hnames (unit : TimeUnit) :
      unit.name ≠ [] ∧ (unit.name ++ ['s']).all isUnitLetter = true := by
    cases unit <;> decide
  obtain ⟨hne, hletters⟩ := hnames t.unit
  rw [List.all_eq_true] at hletters
  rw [unitWord]
  by_cases h : t.isPlural = true
  · rw [if_pos h]
    exact ⟨by simp, hletters⟩
  · rw [if_neg h]
    exact ⟨hne, fun c hc ↦ hletters c (List.mem_append_left _ hc)⟩

/-! ## One term -/

theorem Pair.micros_eq_ok_iff :
    p.micros = .ok m ↔ p.amount.digits.length ≤ maxDigits ∧
      ∃ unit, unitOfWord p.word = .ok unit ∧
        withSign p.amount.negative (decimalValue p.amount.digits) * unit.micros = m := by
  rw [Pair.micros, Numeral.value]
  by_cases hlength : p.amount.digits.length ≤ maxDigits
  · simp only [hlength, if_true, Except.map_eq_ok_iff, true_and]
  · simp [hlength]

theorem isWord_sign_append (sign : Sign) (hs : IsRun isDigit s) : IsWord (sign.text ++ s) := by
  refine ⟨by simp [hs.1], fun c hc ↦ ?_⟩
  rcases List.mem_append.mp hc with hsign | hdigit
  · cases sign with
    | none => exact absurd hsign List.not_mem_nil
    | plus => exact List.mem_singleton.mp hsign ▸ rfl
    | minus => exact List.mem_singleton.mp hsign ▸ rfl
  · exact not_isBlank_of_isDigit (hs.2 c hdigit)

theorem IsRun.isWord (hs : IsRun isUnitLetter s) : IsWord s :=
  ⟨hs.1, fun c hc ↦ not_isBlank_of_isUnitLetter (hs.2 c hc)⟩

/-- A pair with a length, in front of white space or of the end, is a term. -/
theorem exists_term_of_ofFront? (hp : Pair.ofFront? s = some p) (hm : p.micros = .ok m)
    (hrest : EndsWord p.rest) :
    ∃ t : Term, t.micros = m ∧ Text.words s = t.words ++ Text.words (p.rest.dropWhile isBlank) := by
  obtain ⟨sign, blanks, rfl, hnegative, hdigits, hblanks, hword, -⟩ :=
    Pair.ofFront?_eq_some_iff.mp hp
  obtain ⟨hlength, unit, hunit, rfl⟩ := Pair.micros_eq_ok_iff.mp hm
  -- the sign and the digits are one word, and the unit is the next one
  have hwords : Text.words
      (sign.text ++ p.amount.digits ++ (blanks ++ (p.word ++ p.rest)))
      = (sign.text ++ p.amount.digits) :: p.word :: Text.words (p.rest.dropWhile isBlank) := by
    have hends : EndsWord (blanks ++ (p.word ++ p.rest)) := by
      obtain ⟨c, more, rfl⟩ := List.exists_cons_of_ne_nil hblanks.1
      exact fun d hd ↦ Option.some.inj hd ▸ hblanks.2 c List.mem_cons_self
    have hblank := hword.head?_append (t := p.rest) fun _ ↦ not_isBlank_of_isUnitLetter
    rw [words_append (isWord_sign_append sign hdigits) hends,
      dropWhile_append_of_head? hblanks.2 hblank, words_append hword.isWord hrest]
  obtain ⟨isPlural, hname⟩ : ∃ isPlural : Bool,
      p.word = if isPlural then unit.name ++ ['s'] else unit.name := by
    rcases unitOfWord_eq_ok_iff.mp hunit with hname | hname
    · exact ⟨false, hname⟩
    · exact ⟨true, hname⟩
  refine ⟨⟨sign, p.amount.digits, unit, isPlural, hdigits.1, hdigits.2, hlength⟩, ?_, ?_⟩
  · rw [Term.micros, hnegative]
  · rw [hwords, hname]
    rfl

/-- A text whose first two words are a term starts with the pair of this term. -/
theorem exists_ofFront?_of_words {t : Term} {ws : List (List Char)} (hs : StartsWord s)
    (hwords : Text.words s = t.words ++ ws) :
    ∃ p, Pair.ofFront? s = some p ∧ p.micros = .ok t.micros ∧ EndsWord p.rest ∧
      Text.words (p.rest.dropWhile isBlank) = ws := by
  obtain ⟨behind, rfl, -, hbehind, hmore⟩ := exists_append_of_words_eq_cons hs hwords
  obtain ⟨rest, hsplit, -, hrest, hws⟩ :=
    exists_append_of_words_eq_cons (startsWord_dropWhile behind) hmore
  have hblanks : IsRun isBlank (behind.takeWhile isBlank) := by
    refine ⟨fun hnil ↦ ?_, fun c hc ↦ List.mem_takeWhile_imp hc⟩
    cases behind with
    | nil => exact absurd hsplit (by simp [t.isRun_unitWord.1])
    | cons c more => exact absurd hnil (by simp [hbehind c rfl])
  -- the run of letters stops where the word does
  have hletter : ∀ c ∈ rest.head?, isUnitLetter c = false := fun c hc ↦
    not_isUnitLetter_of_isBlank (hrest c hc)
  refine ⟨⟨⟨t.sign.isNegative, t.digits⟩, t.unitWord, rest⟩, ?_, ?_, hrest, hws⟩
  · refine Pair.ofFront?_eq_some_iff.mpr ⟨t.sign, behind.takeWhile isBlank, ?_, rfl,
      ⟨t.digits_ne_nil, t.isDigit_of_mem⟩, hblanks, t.isRun_unitWord, hletter⟩
    rw [← hsplit, List.takeWhile_append_dropWhile, Term.number]
  · exact Pair.micros_eq_ok_iff.mpr ⟨t.length_digits_le, t.unit, t.unitOfWord_unitWord, rfl⟩

/-! ## Sums of terms -/

/-- Whether all partial sums fit in 64 bits, starting from a total. -/
def StaysInRange (total : Int) : List Term → Prop
  | [] => True
  | t :: rest => inRange (total + t.micros) = true ∧ StaysInRange (total + t.micros) rest

/-- The partial sums are those of the initial segments. -/
theorem staysInRange_iff {terms : List Term} :
    StaysInRange total terms ↔
      ∀ front, front <+: terms → front ≠ [] → inRange (total + totalMicros front) = true := by
  induction terms generalizing total with
  | nil =>
    refine iff_of_true trivial fun front hfront hne ↦ absurd (List.prefix_nil.mp hfront) hne
  | cons t rest ih =>
    rw [StaysInRange, ih]
    constructor
    · rintro ⟨hfirst, hrest⟩ front hfront hne
      obtain ⟨first, more, rfl⟩ := List.exists_cons_of_ne_nil hne
      obtain ⟨rfl, hmore⟩ := List.cons_prefix_cons.mp hfront
      rw [totalMicros_cons, ← Int.add_assoc]
      by_cases hnil : more = []
      · rw [hnil, totalMicros_nil, Int.add_zero]
        exact hfirst
      · exact hrest more hmore hnil
    · intro h
      constructor
      · have hfirst := h [t] ⟨rest, rfl⟩ (List.cons_ne_nil t [])
        rwa [totalMicros_cons, totalMicros_nil, Int.add_zero] at hfirst
      · intro front hfront _
        have hmore := h (t :: front) (List.cons_prefix_cons.mpr ⟨rfl, hfront⟩)
          (List.cons_ne_nil t front)
        rwa [totalMicros_cons, ← Int.add_assoc] at hmore

/-- What the loop accepts is a list of terms. -/
theorem exists_terms_of_microsOf (h : microsOf total s = .ok n) :
    ∃ terms : List Term, Text.words s = terms.flatMap Term.words ∧ StaysInRange total terms ∧
      n = total + totalMicros terms := by
  -- the loop succeeds at the end of the text, behind a last pair, and behind one with more to come
  fun_induction microsOf total s with
  | case1 total s hempty =>
    obtain rfl := List.isEmpty_iff.mp hempty
    refine ⟨[], rfl, trivial, ?_⟩
    rw [totalMicros_nil, Int.add_zero, Except.ok.inj h]
  | case2 | case3 | case4 | case6 => exact absurd h (by simp)
  | case5 total s _ p hp micros hmicros hrange hend =>
    rw [Bool.not_eq_true, Bool.not_eq_false'] at hrange
    have hnil := List.isEmpty_iff.mp hend
    obtain ⟨t, rfl, hwords⟩ := exists_term_of_ofFront? hp hmicros (by simp [hnil, EndsWord])
    refine ⟨[t], ?_, ⟨hrange, trivial⟩, ?_⟩
    · rw [hwords, hnil]
      simp
    · rw [totalMicros_cons, totalMicros_nil, Int.add_zero, Except.ok.inj h]
  | case7 total s _ p hp micros hmicros hrange hend hblank ih =>
    rw [Bool.not_eq_true, Bool.not_eq_false'] at hrange
    have hends := (isEmpty_takeWhile_eq_false_iff.mp (Bool.eq_false_iff.mpr hblank)).2
    obtain ⟨t, rfl, hwords⟩ := exists_term_of_ofFront? hp hmicros hends
    obtain ⟨terms, hterms, hstays, rfl⟩ := ih h
    refine ⟨t :: terms, ?_, ⟨hrange, hstays⟩, ?_⟩
    · rw [hwords, hterms, List.flatMap_cons]
    · rw [totalMicros_cons, Int.add_assoc]

/-- The loop goes over a pair to the next word. -/
theorem microsOf_of_ofFront? (hp : Pair.ofFront? s = some p) (hm : p.micros = .ok m)
    (hrange : inRange (total + m) = true) (hrest : EndsWord p.rest) :
    microsOf total s = microsOf (total + m) (p.rest.dropWhile isBlank) := by
  have hne : s.isEmpty = false := by
    rw [List.isEmpty_eq_false_iff]
    rintro rfl
    exact absurd hp (by simp [Pair.ofFront?, splitSign])
  rw [microsOf, hne]
  simp only [Bool.false_eq_true, if_false]
  split
  · next hnone => exact absurd hp (by simp [hnone])
  · next found hfound =>
    obtain rfl : p = found := Option.some.inj (hp.symm.trans hfound)
    simp only [hm, hrange, Bool.not_true, Bool.false_eq_true, if_false]
    by_cases hend : p.rest = []
    · rw [hend, microsOf]
      simp
    · have hblank := isEmpty_takeWhile_eq_false_iff.mpr ⟨hend, hrest⟩
      rw [List.isEmpty_eq_false_iff.mpr hend, hblank]
      simp

/-- A list of terms is accepted by the loop. -/
theorem microsOf_of_terms {terms : List Term} (hs : StartsWord s)
    (hwords : Text.words s = terms.flatMap Term.words) (hstays : StaysInRange total terms) :
    microsOf total s = .ok (total + totalMicros terms) := by
  induction terms generalizing s total with
  | nil =>
    rw [eq_nil_of_words_eq_nil hs hwords, totalMicros_nil, Int.add_zero, microsOf]
    rfl
  | cons t rest ih =>
    -- what is left starts with a word again, which keeps the induction going
    obtain ⟨p, hp, hm, hends, hmore⟩ := exists_ofFront?_of_words hs hwords
    rw [microsOf_of_ofFront? hp hm hstays.1 hends,
      ih (startsWord_dropWhile p.rest) hmore hstays.2, totalMicros_cons, Int.add_assoc]

/-! ## The text as a whole -/

/-- A text without the keyword in front of it. -/
def afterKeyword (s : List Char) : List Char :=
  if keyword <+: s then s.drop keyword.length else s

theorem startsWord_body (raw : List Char) : StartsWord (body raw) := by
  rw [body]
  split
  · exact fun _ hc ↦ not_isBlank_of_mem_head?_trim hc
  · exact not_isBlank_of_mem_head?_lower fun _ hc ↦ not_isBlank_of_mem_head?_trim hc

theorem words_body (raw : List Char) :
    Text.words (body raw) = Text.words (trim (afterKeyword (lower (trim raw)))) := by
  rw [body, afterKeyword, words_trim]
  simp only [List.isPrefixOf_iff_prefix]
  split
  · rw [words_trim]
  · rfl

/-- Whether a text is an interval with the given terms: they are its words, in lower case and behind
the keyword, and all their partial sums fit in 64 bits. -/
structure HasTerms (raw : List Char) (terms : List Term) : Prop where
  /-- There is a term. -/
  ne_nil : terms ≠ []
  /-- The words of the text are those of the terms. -/
  words_eq : Text.words (trim (afterKeyword (lower (trim raw)))) = terms.flatMap Term.words
  /-- No partial sum is too large. -/
  bounds : ∀ front, front <+: terms →
    -(2 ^ 63) ≤ totalMicros front ∧ totalMicros front ≤ 2 ^ 63 - 1

theorem inRange_iff : inRange n = true ↔ -(2 ^ 63) ≤ n ∧ n ≤ 2 ^ 63 - 1 := by
  rw [inRange, Bool.and_eq_true, decide_eq_true_eq, decide_eq_true_eq]

theorem millisOfText_eq_ok_iff {raw : List Char} :
    millisOfText raw = .ok n ↔
      ∃ terms, HasTerms raw terms ∧ n = (totalMicros terms).tdiv 1000 := by
  rw [millisOfText]
  constructor
  · intro h
    split at h
    · exact absurd h (by simp)
    · next hne =>
      obtain ⟨micros, hmicros, rfl⟩ := Except.map_eq_ok_iff.mp h
      obtain ⟨terms, hwords, hstays, rfl⟩ := exists_terms_of_microsOf hmicros
      rw [Int.zero_add]
      refine ⟨terms, ⟨?_, (words_body raw).symm.trans hwords, fun front hfront ↦ ?_⟩, rfl⟩
      · rintro rfl
        exact hne (List.isEmpty_iff.mpr (eq_nil_of_words_eq_nil (startsWord_body raw) hwords))
      · by_cases hnil : front = []
        · rw [hnil, totalMicros_nil]
          decide
        · have hrange := staysInRange_iff.mp hstays front hfront hnil
          rwa [Int.zero_add, inRange_iff] at hrange
  · rintro ⟨terms, ⟨hne, hwords, hbounds⟩, rfl⟩
    rw [← words_body] at hwords
    have hstays : StaysInRange 0 terms := staysInRange_iff.mpr fun front hfront _ ↦ by
      rw [Int.zero_add]
      exact inRange_iff.mpr (hbounds front hfront)
    have hbody : (body raw).isEmpty = false := by
      rw [List.isEmpty_eq_false_iff]
      intro hnil
      obtain ⟨t, rest, rfl⟩ := List.exists_cons_of_ne_nil hne
      rw [hnil] at hwords
      exact absurd hwords (by simp [Term.words])
    simp only [hbody, Bool.false_eq_true, if_false,
      microsOf_of_terms (startsWord_body raw) hwords hstays, Int.zero_add]
    rfl

/-- **Intervals by their terms.** A text is read if and only if its words are those of one or more
terms with partial sums in 64 bits, and its length is their sum in milliseconds, rounded toward
zero, so that it fits in 64 bits even as a number of microseconds. On every other text the reader
fails. -/
theorem millisOfText_by_terms (raw : List Char) :
    (∀ n, millisOfText raw = .ok n ↔
      ∃ terms, HasTerms raw terms ∧ n = (totalMicros terms).tdiv 1000) ∧
      (∀ n, millisOfText raw = .ok n → -(2 ^ 63) ≤ n * 1000 ∧ n * 1000 ≤ 2 ^ 63 - 1) ∧
      ((∃ fault, millisOfText raw = .error fault) ↔ ¬ ∃ terms, HasTerms raw terms) := by
  refine ⟨fun n ↦ millisOfText_eq_ok_iff, fun n hn ↦ ?_, ?_⟩
  · obtain ⟨terms, hterms, rfl⟩ := millisOfText_eq_ok_iff.mp hn
    have hbounds := hterms.bounds terms (List.prefix_refl terms)
    have habs : ((totalMicros terms).tdiv 1000).natAbs = (totalMicros terms).natAbs / 1000 :=
      Int.natAbs_tdiv _ 1000
    omega
  · constructor
    · rintro ⟨fault, hfault⟩ ⟨terms, hterms⟩
      have hread := millisOfText_eq_ok_iff.mpr ⟨terms, hterms, rfl⟩
      exact absurd (hfault.symm.trans hread) (by simp)
    · intro hnone
      cases hread : millisOfText raw with
      | error fault => exact ⟨fault, rfl⟩
      | ok n =>
        obtain ⟨terms, hterms, -⟩ := millisOfText_eq_ok_iff.mp hread
        exact absurd ⟨terms, hterms⟩ hnone

end TableProperties.Interval
