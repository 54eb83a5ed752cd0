import TableProperties.Proofs.Text.Blank
import TableProperties.Proofs.Text.Surrogate
import TableProperties.Text.Lower

/-!
# Lower case is final

Mapping a text to lower case a second time changes nothing. The mapping looks at neighbours only
for the capital sigma, so it is enough that every character it produces is *settled*: the character
is its own lower case form and no capital sigma. For characters outside the table this holds by
definition. For the others the table itself is compared with its image, run by run, which is a
statement about finitely many pairs of runs.

On ASCII texts the mapping is that of the core library, which knows no other characters.

## Main statements

* `mem_lowerChar_cases`, `exists_lowerFrom_cons`: where lower case characters come from.
* `lower_lower`: lower case is final.
* `hasNoPair_lower`, `not_isBlank_of_mem_head?_lower`: no halves of pairs and no white space arise.
-/

namespace TableProperties.Text

/-! ## The table and its image -/

/-- The lower case form of the first member of a run. -/
def CaseRun.imageFirst (r : CaseRun) : Nat :=
  (r.first + r.offset).toNat

/-- The lower case form of the last member of a run. -/
def CaseRun.imageLast (r : CaseRun) : Nat :=
  (r.last + r.offset).toNat

/-- Whether no lower case form of a run is a member of another run: the code points lie apart, or
they alternate with the members of the other run. -/
def CaseRun.imageMisses (r q : CaseRun) : Bool :=
  Nat.blt r.imageLast q.first || Nat.blt q.last r.imageFirst ||
    (q.step == 2 && (r.step == 2 || r.first == r.last) && (r.imageFirst + q.first) % 2 == 1)

/-- Whether the lower case forms of a run are characters. -/
def CaseRun.imageIsValid (r : CaseRun) : Bool :=
  decide (0 ≤ r.first + r.offset) &&
    (Nat.blt r.imageLast 0xd800 || (Nat.blt 0xdfff r.imageFirst && Nat.blt r.imageLast 0x110000))

theorem CaseRun.contains_iff {r : CaseRun} {n : Nat} :
    r.contains n = true ↔ r.first ≤ n ∧ n ≤ r.last ∧ (n - r.first) % r.step = 0 := by
  simp [CaseRun.contains, and_assoc]

section Image

variable {r q : CaseRun} {n m : Nat}

theorem CaseRun.not_contains_of_imageMisses (h : r.imageMisses q = true)
    (hvalid : r.imageIsValid = true) (hn : r.contains n = true) (hm : (m : Int) = n + r.offset) :
    q.contains m = false := by
  simp only [imageMisses, imageFirst, imageLast, Nat.blt_eq, Bool.or_eq_true, Bool.and_eq_true,
    beq_iff_eq] at h
  simp only [imageIsValid, Bool.and_eq_true, decide_eq_true_eq] at hvalid
  rw [Bool.eq_false_iff, ne_eq, contains_iff]
  rintro ⟨hfirst, hlast, hstep⟩
  obtain ⟨hfirst', hlast', hstep'⟩ := contains_iff.mp hn
  rcases h with (h | h) | ⟨⟨hq, hr⟩, hodd⟩
  · omega
  · omega
  · -- both runs take every other code point, or the first has one member: parity decides
    rw [hq] at hstep
    rcases hr with hr | hr
    · rw [hr] at hstep'
      omega
    · omega

theorem CaseRun.toNat_ofNat_of_imageIsValid (h : r.imageIsValid = true)
    (hn : r.contains n = true) :
    ((Char.ofNat (n + r.offset).toNat).toNat : Int) = n + r.offset := by
  simp only [imageIsValid, imageFirst, imageLast, Nat.blt_eq, Bool.or_eq_true, Bool.and_eq_true,
    decide_eq_true_eq] at h
  obtain ⟨hfirst, hlast, -⟩ := contains_iff.mp hn
  have hvalid : (n + r.offset).toNat.isValidChar := by
    unfold Nat.isValidChar
    omega
  rw [Char.ofNat, dif_pos hvalid]
  change ((n + r.offset).toNat : Int) = n + r.offset
  omega

end Image

private theorem imageMisses_of_mem {r q : CaseRun} (hr : r ∈ caseRuns) (hq : q ∈ caseRuns) :
    r.imageMisses q = true := by
  have h : (caseRuns.all fun r ↦ caseRuns.all fun q ↦ r.imageMisses q) = true := by
    decide +kernel
  exact List.all_eq_true.mp (List.all_eq_true.mp h r hr) q hq

private theorem imageIsValid_of_mem {r : CaseRun} (hr : r ∈ caseRuns) :
    r.imageIsValid = true := by
  have h : (caseRuns.all fun r ↦ r.imageIsValid) = true := by decide +kernel
  exact List.all_eq_true.mp h r hr

/-- The capital I with a dot above is no lower case form. -/
private theorem imageMisses_dottedI {r : CaseRun} (hr : r ∈ caseRuns) :
    r.imageMisses ⟨0x130, 0x130, 1, 0⟩ = true := by
  have h : (caseRuns.all fun r ↦ r.imageMisses ⟨0x130, 0x130, 1, 0⟩) = true := by decide +kernel
  exact List.all_eq_true.mp h r hr

/-! ## Where a lower case character comes from -/

/-- A character of a lower case form comes from the capital I with a dot above, from a run of the
table, or from the character itself when no run contains it. -/
theorem mem_lowerChar_cases {c d : Char} (h : d ∈ lowerChar c) :
    (d = 'i' ∨ d = '\u0307') ∨
      (∃ r ∈ caseRuns, r.contains c.toNat = true ∧ (d.toNat : Int) = c.toNat + r.offset) ∨
      (d = c ∧ c ≠ '\u0130' ∧ ∀ r ∈ caseRuns, r.contains c.toNat = false) := by
  unfold lowerChar at h
  split at h
  · simp only [List.mem_cons, List.not_mem_nil, or_false] at h
    exact .inl h
  · next hdotted =>
    split at h
    · next r hfind =>
      obtain rfl := List.mem_singleton.mp h
      have hr : r ∈ caseRuns := List.mem_of_find?_eq_some hfind
      have hc : r.contains c.toNat = true := by simpa using List.find?_some hfind
      have hto := CaseRun.toNat_ofNat_of_imageIsValid (imageIsValid_of_mem hr) hc
      exact .inr (.inl ⟨r, hr, hc, hto⟩)
    · next hfind =>
      refine .inr (.inr ⟨List.mem_singleton.mp h, hdotted, fun r hr ↦ ?_⟩)
      simpa using List.find?_eq_none.mp hfind r hr

theorem lowerChar_ne_nil (c : Char) : lowerChar c ≠ [] := by
  unfold lowerChar
  split
  · simp
  · split <;> simp

/-- The first character of a text has a form that is not empty. Only a capital sigma looks at its
neighbours. -/
theorem exists_lowerFrom_cons (before : List Char) (c : Char) (rest : List Char) :
    ∃ form, lowerFrom before (c :: rest) = form ++ lowerFrom (c :: before) rest ∧ form ≠ [] ∧
      ∀ d ∈ form, (d = 'ς' ∨ d = 'σ') ∨ d ∈ lowerChar c := by
  refine ⟨_, rfl, ?_, ?_⟩
  · split
    · split <;> simp
    · exact lowerChar_ne_nil c
  · intro d hd
    split at hd
    · split at hd
      · exact .inl (.inl (List.mem_singleton.mp hd))
      · exact .inl (.inr (List.mem_singleton.mp hd))
    · exact .inr hd

/-! ## Settled characters -/

/-- Whether a character stays as it is in lower case, whatever its neighbours are. -/
def IsSettled (c : Char) : Prop :=
  lowerChar c = [c] ∧ c ≠ 'Σ'

theorem isSettled_of_not_contains {c : Char} (hdotted : c ≠ '\u0130')
    (h : ∀ q ∈ caseRuns, q.contains c.toNat = false) : IsSettled c := by
  have hnone : caseRuns.find? (fun r ↦ r.contains c.toNat) = none := by
    rw [List.find?_eq_none]
    intro q hq
    simp [h q hq]
  refine ⟨by rw [lowerChar, if_neg hdotted, hnone], ?_⟩
  rintro rfl
  revert hnone
  decide +kernel

theorem isSettled_of_mem_lowerChar {c d : Char} (h : d ∈ lowerChar c) : IsSettled d := by
  rcases mem_lowerChar_cases h with hdotted | ⟨r, hr, hc, hto⟩ | ⟨rfl, hdotted, hnone⟩
  · rcases hdotted with rfl | rfl <;> exact ⟨by decide +kernel, by decide⟩
  · have hvalid := imageIsValid_of_mem hr
    refine isSettled_of_not_contains ?_ fun q hq ↦
      CaseRun.not_contains_of_imageMisses (imageMisses_of_mem hr hq) hvalid hc hto
    rintro rfl
    have hout := CaseRun.not_contains_of_imageMisses (imageMisses_dottedI hr) hvalid hc hto
    exact absurd hout (by decide)
  · exact isSettled_of_not_contains hdotted hnone

theorem isSettled_of_mem_lowerFrom {s before : List Char} {d : Char}
    (h : d ∈ lowerFrom before s) : IsSettled d := by
  induction s generalizing before with
  | nil => exact absurd h (by simp [lowerFrom])
  | cons c rest ih =>
    obtain ⟨form, hform, -, hmem⟩ := exists_lowerFrom_cons before c rest
    rw [hform, List.mem_append] at h
    rcases h with h | h
    · rcases hmem d h with hsigma | hchar
      · -- the two forms of the sigma are settled by inspection
        rcases hsigma with rfl | rfl <;> exact ⟨by decide +kernel, by decide⟩
      · exact isSettled_of_mem_lowerChar hchar
    · exact ih h

theorem isSettled_of_mem_lower {s : List Char} {d : Char} (h : d ∈ lower s) : IsSettled d :=
  isSettled_of_mem_lowerFrom h

/-! ## Idempotence -/

theorem lowerFrom_of_isSettled {s : List Char} (h : ∀ c ∈ s, IsSettled c) (before : List Char) :
    lowerFrom before s = s := by
  induction s generalizing before with
  | nil => rfl
  | cons c rest ih =>
    obtain ⟨hc, hsigma⟩ := h c List.mem_cons_self
    rw [lowerFrom, if_neg hsigma, hc, ih fun d hd ↦ h d (List.mem_cons_of_mem c hd)]
    rfl

@[simp] theorem lower_lower (s : List Char) : lower (lower s) = lower s :=
  lowerFrom_of_isSettled (fun _ hc ↦ isSettled_of_mem_lower hc) []

@[simp] theorem lowercase_lowercase (s : String) : lowercase (lowercase s) = lowercase s := by
  rw [lowercase, toList_lowercase, lower_lower, lowercase]

/-! ## Halves of surrogate pairs -/

/-- Whether no member of a run stands for half of a surrogate pair, and no lower case form does. -/
def CaseRun.missesStandIns (r : CaseRun) : Bool :=
  (Nat.blt r.last (0xd800 + standInDistance) || Nat.blt (0xdfff + standInDistance) r.first) &&
    (Nat.blt r.imageLast (0xd800 + standInDistance) ||
      Nat.blt (0xdfff + standInDistance) r.imageFirst)

private theorem missesStandIns_of_mem {r : CaseRun} (hr : r ∈ caseRuns) :
    r.missesStandIns = true := by
  have h : (caseRuns.all fun r ↦ r.missesStandIns) = true := by decide +kernel
  exact List.all_eq_true.mp h r hr

theorem isStandIn_iff {c : Char} :
    isStandIn c = true ↔ 0xd800 + standInDistance ≤ c.toNat ∧ c.toNat ≤ 0xdfff + standInDistance := by
  rw [isStandIn, isSurrogate_iff]
  have : 0 < standInDistance := by decide
  omega

theorem CaseRun.not_isStandIn_image {r : CaseRun} (hr : r ∈ caseRuns) {c d : Char}
    (hc : r.contains c.toNat = true) (hto : (d.toNat : Int) = c.toNat + r.offset) :
    isStandIn d = false := by
  have hmisses := missesStandIns_of_mem hr
  obtain ⟨hfirst, hlast, -⟩ := contains_iff.mp hc
  simp only [missesStandIns, imageFirst, imageLast, Nat.blt_eq, Bool.and_eq_true,
    Bool.or_eq_true] at hmisses
  rw [Bool.eq_false_iff, ne_eq, isStandIn_iff]
  omega

/-- A stand-in in a lower case form is the character itself. -/
theorem eq_of_mem_lowerChar_of_isStandIn {c d : Char} (h : d ∈ lowerChar c)
    (hd : isStandIn d = true) : d = c := by
  rcases mem_lowerChar_cases h with hdotted | ⟨r, hr, hc, hto⟩ | ⟨hself, -⟩
  · rcases hdotted with rfl | rfl <;> exact absurd hd (by decide)
  · exact absurd hd (by simp [CaseRun.not_isStandIn_image hr hc hto])
  · exact hself

/-- Mapping to lower case makes no pairs of halves. -/
theorem hasNoPair_lowerFrom {s : List Char} (h : HasNoPair s) (before : List Char) :
    HasNoPair (lowerFrom before s) ∧
      ∀ c ∈ (lowerFrom before s).head?, isStandIn c = true → s.head? = some c := by
  induction s generalizing before with
  | nil => exact ⟨List.IsChain.nil, by simp [lowerFrom]⟩
  | cons c rest ih =>
    obtain ⟨hrest, hhead⟩ := ih (List.IsChain.tail h) (c :: before)
    obtain ⟨form, hform, hne, hmem⟩ := exists_lowerFrom_cons before c rest
    rw [hform]
    have hself : ∀ d ∈ form, isStandIn d = true → d = c := by
      intro d hd hstand
      rcases hmem d hd with hsigma | hchar
      · rcases hsigma with rfl | rfl <;> exact absurd hstand (by decide)
      · exact eq_of_mem_lowerChar_of_isStandIn hchar hstand
    constructor
    · refine List.isChain_append.mpr ⟨?_, hrest, ?_⟩
      · -- two stand-ins in one form would be the same character
        refine List.Pairwise.isChain (List.pairwise_of_forall_mem_list fun d hd e he hpair ↦ ?_)
        rw [hself d hd hpair.isStandIn.1, hself e he hpair.isStandIn.2] at hpair
        exact not_isPair_self c hpair
      · intro d hd e he hpair
        have hc := hself d (List.mem_of_getLast? hd) hpair.isStandIn.1
        obtain ⟨tail, rfl⟩ := List.head?_eq_some_iff.mp (hhead e he hpair.isStandIn.2)
        exact (List.isChain_cons_cons.mp h).1 (hc ▸ hpair)
    · intro d hd hstand
      rw [List.head?_append_of_ne_nil _ hne] at hd
      rw [hself d (List.mem_of_head? hd) hstand]
      rfl

theorem hasNoPair_lower {s : List Char} (h : HasNoPair s) : HasNoPair (lower s) :=
  (hasNoPair_lowerFrom h []).1

/-! ## White space -/

private theorem missesBlanks_image_of_mem {r : CaseRun} (hr : r ∈ caseRuns) :
    missesBlanks r.imageFirst r.imageLast = true := by
  have h : (caseRuns.all fun r ↦ missesBlanks r.imageFirst r.imageLast) = true := by
    decide +kernel
  exact List.all_eq_true.mp h r hr

/-- No other character than white space becomes white space in lower case. -/
theorem not_isBlank_of_mem_lowerChar {c d : Char} (hc : isBlank c = false)
    (h : d ∈ lowerChar c) : isBlank d = false := by
  rcases mem_lowerChar_cases h with hdotted | ⟨r, hr, hmem, hto⟩ | ⟨rfl, -⟩
  · rcases hdotted with rfl | rfl <;> decide
  · obtain ⟨hfirst, hlast, -⟩ := CaseRun.contains_iff.mp hmem
    refine not_isBlank_of_missesBlanks (missesBlanks_image_of_mem hr) ?_ ?_
    · rw [CaseRun.imageFirst]
      omega
    · rw [CaseRun.imageLast]
      omega
  · exact hc

/-- A text that does not start with white space does not do so in lower case. -/
theorem not_isBlank_of_mem_head?_lower {s : List Char} (hs : ∀ c ∈ s.head?, isBlank c = false) :
    ∀ c ∈ (lower s).head?, isBlank c = false := by
  cases s with
  | nil => simp
  | cons c rest =>
    obtain ⟨form, hform, hne, hmem⟩ := exists_lowerFrom_cons [] c rest
    rw [lower, hform, List.head?_append_of_ne_nil _ hne]
    intro d hd
    rcases hmem d (List.mem_of_head? hd) with hsigma | hchar
    · rcases hsigma with rfl | rfl <;> decide
    · exact not_isBlank_of_mem_lowerChar (hs c rfl) hchar

/-! ## ASCII -/

/-- The first run is the only one below the code points beyond ASCII. -/
private theorem find?_caseRuns_of_ascii {n : Nat} (h : n < 0x80) :
    caseRuns.find? (fun r ↦ r.contains n)
      = if 0x41 ≤ n ∧ n ≤ 0x5a then some ⟨0x41, 0x5a, 1, 32⟩ else none := by
  have hcons : caseRuns = ⟨0x41, 0x5a, 1, 32⟩ :: caseRuns.tail := rfl
  have htail : (caseRuns.tail.all fun r ↦ Nat.ble 0x80 r.first) = true := by decide +kernel
  rw [hcons, List.find?_cons]
  by_cases hcap : 0x41 ≤ n ∧ n ≤ 0x5a
  · rw [if_pos hcap, CaseRun.contains_iff.mpr ⟨hcap.1, hcap.2, Nat.mod_one _⟩]
  · have hout : CaseRun.contains ⟨0x41, 0x5a, 1, 32⟩ n = false := by
      rw [Bool.eq_false_iff, ne_eq, CaseRun.contains_iff]
      exact fun hmem ↦ hcap ⟨hmem.1, hmem.2.1⟩
    rw [if_neg hcap, hout, List.find?_eq_none]
    intro r hr hmem
    have hfirst : 0x80 ≤ r.first := Nat.le_of_ble_eq_true (List.all_eq_true.mp htail r hr)
    exact absurd (CaseRun.contains_iff.mp hmem).1 (by omega)

theorem lowerChar_of_ascii {c : Char} (h : c.toNat < 0x80) : lowerChar c = [c.toLower] := by
  have hdotted : c ≠ '\u0130' := by
    rintro rfl
    exact absurd h (by decide)
  have hlower : ∀ n < 0x80, (Char.ofNat n).toLower
      = if 0x41 ≤ n ∧ n ≤ 0x5a then Char.ofNat (n + 32) else Char.ofNat n := by decide
  have hc := hlower c.toNat h
  rw [Char.ofNat_toNat] at hc
  rw [lowerChar, if_neg hdotted, find?_caseRuns_of_ascii h, hc]
  by_cases hcap : 0x41 ≤ c.toNat ∧ c.toNat ≤ 0x5a
  · rw [if_pos hcap, if_pos hcap]
    rfl
  · rw [if_neg hcap, if_neg hcap]

theorem lowerFrom_of_ascii {s : List Char} (h : ∀ c ∈ s, c.toNat < 0x80) (before : List Char) :
    lowerFrom before s = s.map Char.toLower := by
  induction s generalizing before with
  | nil => rfl
  | cons c rest ih =>
    have hc := h c List.mem_cons_self
    have hsigma : c ≠ 'Σ' := by
      rintro rfl
      exact absurd hc (by decide)
    rw [lowerFrom, if_neg hsigma, lowerChar_of_ascii hc,
      ih fun d hd ↦ h d (List.mem_cons_of_mem c hd)]
    rfl

theorem lowercase_of_ascii {s : String} (h : ∀ c ∈ s.toList, c.toNat < 0x80) :
    lowercase s = String.ofList (s.toList.map Char.toLower) := by
  rw [lowercase, lower, lowerFrom_of_ascii h]

end TableProperties.Text
