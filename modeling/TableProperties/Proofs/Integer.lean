import Mathlib.Data.List.TakeWhile
import TableProperties.Integer

/-!
# Decimal integers are read back

An integer in decimal form is a literal of base ten, and reads as the integer it was written from as
long as it has no more digits than are converted.

## Main statements

* `decimal_eq`: the decimal form is a sign and the digits of the absolute value.
* `readLiteral_decimal`: it is read back.
-/

namespace TableProperties.Integer

open Text

variable {c : Char} {ds : List Char}

/-! ## Digits -/

theorem toNat_of_isDigit (h : c.isDigit = true) : 48 ≤ c.toNat ∧ c.toNat ≤ 57 := by
  simpa [Char.isDigit, UInt32.le_iff_toNat_le] using h

theorem digitValue?_of_isDigit (h : c.isDigit = true) : digitValue? c = some (c.toNat - 48) := by
  obtain ⟨hleast, hgreatest⟩ := toNat_of_isDigit h
  have hzero : (decide (48 ≤ c.toNat) && decide (c.toNat < 48 + 10)) = true := by
    simp only [Bool.and_eq_true, decide_eq_true_eq]
    omega
  rw [digitValue?, zeros, List.find?_cons, hzero]
  rfl

theorem literalDigit?_of_isDigit (h : c.isDigit = true) :
    literalDigit? c = some (c.toNat - 48) := by
  rw [literalDigit?, digitValue?_of_isDigit h]

theorem isLiteralChar_of_isDigit (h : c.isDigit = true) : isLiteralChar 10 c = true := by
  have hlt : c.toNat - 48 < 10 := by
    have := toNat_of_isDigit h
    omega
  simp [isLiteralChar, literalDigit?_of_isDigit h, hlt]

theorem not_isNumberBlank_of_isDigit (h : c.isDigit = true) : isNumberBlank c = false := by
  have := toNat_of_isDigit h
  simp only [isNumberBlank, isBlank, Bool.and_eq_false_iff, Bool.or_eq_false_iff,
    decide_eq_false_iff_not, beq_eq_false_iff_ne, Bool.not_eq_false']
  omega

theorem separatedDigits?_of_isDigit (hne : ds ≠ []) (h : ∀ c ∈ ds, c.isDigit = true) :
    separatedDigits? 10 ds = some (ds.map fun c ↦ c.toNat - 48) := by
  have hdigit {c : Char} (hc : c.isDigit = true) :
      literalDigit? c = some (c.toNat - 48) ∧ c.toNat - 48 < 10 := by
    have := toNat_of_isDigit hc
    exact ⟨literalDigit?_of_isDigit hc, by omega⟩
  induction ds with
  | nil => exact absurd rfl hne
  | cons c rest ih =>
    obtain ⟨hvalue, hlt⟩ := hdigit (h c List.mem_cons_self)
    cases rest with
    | nil => simp [separatedDigits?, hvalue, hlt]
    | cons d rest =>
      have hd := h d (List.mem_cons_of_mem _ List.mem_cons_self)
      have hrest := ih (List.cons_ne_nil _ _) fun e he ↦ h e (List.mem_cons_of_mem _ he)
      have hunderscore : d ≠ '_' := by
        rintro rfl
        exact absurd hd (by decide)
      rw [separatedDigits?, hvalue, hrest]
      · simp [hlt]
      · simp
      · rintro tail htail
        exact hunderscore (List.cons.inj htail).1

/-! ## Literals -/

theorem trimNumber_of_forall {s : List Char} (h : ∀ c ∈ s, isNumberBlank c = false) :
    trimNumber s = s := by
  have hdrop {s : List Char} (h : ∀ c ∈ s, isNumberBlank c = false) :
      s.dropWhile isNumberBlank = s := by
    cases s with
    | nil => rfl
    | cons c rest => rw [List.dropWhile_cons_of_neg (by simp [h c List.mem_cons_self])]
  rw [trimNumber, hdrop h, hdrop fun c hc ↦ h c (List.mem_reverse.mp hc), List.reverse_reverse]

theorem dropBaseMark_ten (s : List Char) : dropBaseMark 10 s = s := by
  have hmark (m : Char) : baseMark? m ≠ some 10 := by
    unfold baseMark?
    split <;> decide
  unfold dropBaseMark
  split
  · rw [if_neg (hmark _)]
  · rfl

theorem splitSign_of_isDigit (hne : ds ≠ []) (h : ∀ c ∈ ds, c.isDigit = true) :
    splitSign ds = (false, ds) := by
  cases ds with
  | nil => exact absurd rfl hne
  | cons c rest =>
    have hc := h c List.mem_cons_self
    unfold splitSign
    split
    · next heq => exact absurd ((List.cons.inj heq).1 ▸ hc) (by decide)
    · next heq => exact absurd ((List.cons.inj heq).1 ▸ hc) (by decide)
    · rfl

/-- A sign and not too many digits are read as the number that they denote. -/
theorem readLiteral_of_splitSign {s : List Char} {negative : Bool}
    (hblank : ∀ c ∈ s, isNumberBlank c = false) (hsplit : splitSign s = (negative, ds))
    (hne : ds ≠ []) (hds : ∀ c ∈ ds, c.isDigit = true) (hlength : ds.length ≤ maxDigits) :
    readLiteral 10 s = .ok (withSign negative (Nat.ofDigitChars 10 ds 0)) := by
  have htake : ds.takeWhile (isLiteralChar 10) = ds :=
    List.takeWhile_eq_self_iff.mpr fun c hc ↦ isLiteralChar_of_isDigit (hds c hc)
  have hdrop : ds.dropWhile (isLiteralChar 10) = [] :=
    List.dropWhile_eq_nil_iff.mpr fun c hc ↦ isLiteralChar_of_isDigit (hds c hc)
  have hfold : (ds.map fun c ↦ c.toNat - 48).foldl (fun n d ↦ 10 * n + d) 0
      = Nat.ofDigitChars 10 ds 0 := by
    rw [List.foldl_map]
    rfl
  have hfew : ¬ maxDigits < ds.length := Nat.not_lt.mpr hlength
  rw [readLiteral, trimNumber_of_forall hblank, hsplit]
  simp only [Nat.reduceEqDiff, if_false, dropBaseMark_ten, htake,
    separatedDigits?_of_isDigit hne hds, List.length_map, hfew, decide_false, Bool.and_false,
    Bool.false_eq_true, hdrop, hfold]
  rfl

/-! ## Decimal forms -/

/-- The sign in front of the decimal form of an integer. -/
def signText (n : Int) : List Char :=
  if n < 0 then ['-'] else []

/-- The decimal form is the sign and the digits of the absolute value. -/
theorem decimal_eq (n : Int) : decimal n = signText n ++ Nat.toDigits 10 n.natAbs := by
  cases n with
  | ofNat n => rfl
  | negSucc n =>
    rw [signText, if_pos (Int.negSucc_lt_zero n)]
    rfl

theorem splitSign_decimal (n : Int) :
    splitSign (decimal n) = (decide (n < 0), Nat.toDigits 10 n.natAbs) := by
  rw [decimal_eq, signText]
  by_cases hneg : n < 0
  · rw [if_pos hneg, decide_eq_true hneg]
    rfl
  · rw [if_neg hneg, decide_eq_false hneg, List.nil_append]
    exact splitSign_of_isDigit Nat.toDigits_ne_nil fun c hc ↦
      Nat.isDigit_of_mem_toDigits (by decide) (by decide) hc

theorem mem_decimal {n : Int} (h : c ∈ decimal n) : c = '-' ∨ c.isDigit = true := by
  rw [decimal_eq, List.mem_append] at h
  rcases h with h | h
  · rw [signText] at h
    split at h
    · exact .inl (List.mem_singleton.mp h)
    · exact absurd h List.not_mem_nil
  · exact .inr (Nat.isDigit_of_mem_toDigits (by decide) (by decide) h)

/-- The digits of a positive number do not start with a zero. -/
theorem toDigits_ne_zero_cons {n : Nat} (hn : 0 < n) (rest : List Char) :
    Nat.toDigits 10 n ≠ '0' :: rest := by
  induction n using Nat.strongRecOn generalizing rest with
  | ind n ih =>
    rw [Nat.toDigits_eq_if (by decide)]
    by_cases hlt : n < 10
    · rw [if_pos hlt]
      intro h
      exact absurd (Nat.digitChar_eq_zero.mp (List.cons.inj h).1) (Nat.ne_of_gt hn)
    · rw [if_neg hlt]
      intro h
      -- the first digit is that of the quotient
      rcases List.append_eq_cons_iff.mp h with ⟨hnil, -⟩ | ⟨front, hfront, -⟩
      · exact Nat.toDigits_ne_nil hnil
      · exact ih (n / 10) (by omega) (by omega) front hfront

/-- An integer that is not too long is read back from its decimal form. -/
theorem readLiteral_decimal {n : Int} (h : n.natAbs < 10 ^ maxDigits) :
    readLiteral 10 (decimal n) = .ok n := by
  have hdigits : ∀ c ∈ Nat.toDigits 10 n.natAbs, c.isDigit = true :=
    fun c hc ↦ Nat.isDigit_of_mem_toDigits (by decide) (by decide) hc
  have hlength : (Nat.toDigits 10 n.natAbs).length ≤ maxDigits :=
    (Nat.length_toDigits_le_iff (by decide) (by decide)).mpr h
  have hblank : ∀ c ∈ decimal n, isNumberBlank c = false := by
    intro c hc
    rcases mem_decimal hc with rfl | hc
    · decide
    · exact not_isNumberBlank_of_isDigit hc
  rw [readLiteral_of_splitSign hblank (splitSign_decimal n) Nat.toDigits_ne_nil hdigits hlength,
    Nat.ofDigitChars_toDigits (by decide) (by decide), withSign]
  by_cases hneg : n < 0
  · rw [decide_eq_true hneg, if_pos rfl]
    exact congrArg Except.ok (by omega)
  · rw [decide_eq_false hneg, if_neg Bool.false_ne_true]
    exact congrArg Except.ok (by omega)

end TableProperties.Integer
