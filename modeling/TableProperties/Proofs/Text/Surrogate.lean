import Mathlib.Data.List.Chain
import Mathlib.Data.List.Pairwise
import TableProperties.Text.Hex
import TableProperties.Text.Surrogate

/-!
# Code points and their escapes

A character is determined by the code point for which it stands, halves of surrogate pairs included,
and a code point beyond the first plane by the two halves into which it is split. What is written
with hexadecimal digits is read back.

## Main statements

* `ofCodePoint_codePoint`, `ofSurrogates_split`: characters from code points and from halves.
* `hexValueOf?_fixedHex`: numbers from hexadecimal digits.
* `joinSurrogates_of_hasNoPair`: where there is nothing to join.
-/

namespace TableProperties.Text

variable {c : Char} {n : Nat}

/-! ## Hexadecimal digits -/

theorem hexValue?_hexDigit (n : Nat) : hexValue? (hexDigit n) = some (n % 16) := by
  have hall : ∀ m < 16, hexValue? (hexDigit m) = some m := by decide
  rw [← hexDigit_mod]
  exact hall _ (Nat.mod_lt n (by decide))

theorem hexValueOf?_append_singleton (s : List Char) (c : Char) :
    hexValueOf? (s ++ [c]) = (hexValueOf? s).bind fun n ↦ (hexValue? c).map (16 * n + ·) := by
  rw [hexValueOf?, List.foldlM_append, hexValueOf?]
  refine congrArg (Option.bind _) (funext fun n ↦ ?_)
  exact bind_pure _

theorem hexValue?_hexDigitUpper (n : Nat) : hexValue? (hexDigitUpper n) = some (n % 16) := by
  have hall : ∀ m < 16, hexValue? (hexDigitUpper m) = some m := by decide
  rw [← hexDigitUpper_mod]
  exact hall _ (Nat.mod_lt n (by decide))

/-- A number written with digits of either case. -/
theorem hexValueOf?_fixedHex {digit : Nat → Char}
    (h : ∀ n, hexValue? (digit n) = some (n % 16)) (width n : Nat) :
    hexValueOf? (fixedHex digit width n) = some (n % 16 ^ width) := by
  induction width generalizing n with
  | zero => rw [Nat.pow_zero, Nat.mod_one]; rfl
  | succ width ih =>
    rw [fixedHex, hexValueOf?_append_singleton, ih, Option.bind_some, h, Option.map_some,
      Nat.pow_succ', Nat.mod_mul]
    congr 1
    omega

theorem forall_mem_fixedHex {digit : Nat → Char} {P : Char → Prop} (h : ∀ n, P (digit n))
    (width n : Nat) : ∀ c ∈ fixedHex digit width n, P c := by
  induction width generalizing n with
  | zero => simp [fixedHex]
  | succ width ih =>
    intro c hc
    rcases List.mem_append.mp hc with hc | hc
    · exact ih _ c hc
    · exact List.mem_singleton.mp hc ▸ h n

theorem isAlphanum_hexDigit (n : Nat) : (hexDigit n).isAlphanum = true := by
  have hall : ∀ m < 16, (hexDigit m).isAlphanum = true := by decide
  rw [← hexDigit_mod]
  exact hall _ (Nat.mod_lt n (by decide))

/-- The digits, the capital letters and the small ones. -/
theorem isAlphanum_cases (h : c.isAlphanum = true) :
    (0x30 ≤ c.toNat ∧ c.toNat ≤ 0x39) ∨ (0x41 ≤ c.toNat ∧ c.toNat ≤ 0x5a) ∨
      (0x61 ≤ c.toNat ∧ c.toNat ≤ 0x7a) := by
  have hclasses : (decide (65 ≤ c.val ∧ c.val ≤ 90) ||
      (decide (97 ≤ c.val) && decide (c.val ≤ 122)) ||
        (decide (48 ≤ c.val) && decide (c.val ≤ 57))) = true := h
  simp only [Bool.or_eq_true, Bool.and_eq_true, decide_eq_true_eq, UInt32.le_iff_toNat_le]
    at hclasses
  rcases hclasses with (h | h) | h
  · exact .inr (.inl h)
  · exact .inr (.inr h)
  · exact .inl h

theorem toNat_of_isAlphanum (h : c.isAlphanum = true) : 0x30 ≤ c.toNat ∧ c.toNat ≤ 0x7a := by
  rcases isAlphanum_cases h with h | h | h <;> omega

/-! ## Code points -/

theorem isSurrogate_iff : isSurrogate n = true ↔ 0xd800 ≤ n ∧ n ≤ 0xdfff := by
  simp [isSurrogate]

theorem isHighSurrogate_iff : isHighSurrogate n = true ↔ 0xd800 ≤ n ∧ n ≤ 0xdbff := by
  simp [isHighSurrogate]

theorem isLowSurrogate_iff : isLowSurrogate n = true ↔ 0xdc00 ≤ n ∧ n ≤ 0xdfff := by
  simp [isLowSurrogate]

theorem isSurrogate_toNat (c : Char) : isSurrogate c.toNat = false := by
  rw [Bool.eq_false_iff, ne_eq, isSurrogate_iff]
  have hvalid : c.toNat < 0xd800 ∨ 0xdfff < c.toNat ∧ c.toNat < 0x110000 := c.valid
  omega

theorem toNat_lt (c : Char) : c.toNat < 0x110000 := by
  have hvalid : c.toNat < 0xd800 ∨ 0xdfff < c.toNat ∧ c.toNat < 0x110000 := c.valid
  omega

theorem codePoint_of_isStandIn (h : isStandIn c = true) :
    isSurrogate (codePoint c) = true ∧ codePoint c + standInDistance = c.toNat := by
  have hsurrogate : isSurrogate (c.toNat - standInDistance) = true := h
  rw [codePoint, if_pos h]
  refine ⟨hsurrogate, ?_⟩
  rw [isSurrogate_iff] at hsurrogate
  omega

theorem codePoint_of_not_isStandIn (h : isStandIn c = false) : codePoint c = c.toNat := by
  rw [codePoint, if_neg (Bool.eq_false_iff.mp h)]

/-- The stand-ins are the characters for halves of surrogate pairs. -/
theorem isSurrogate_codePoint (c : Char) : isSurrogate (codePoint c) = isStandIn c := by
  cases h : isStandIn c with
  | true => exact (codePoint_of_isStandIn h).1
  | false => rw [codePoint_of_not_isStandIn h, isSurrogate_toNat]

/-- A character is that of its code point. -/
theorem ofCodePoint_codePoint (c : Char) : ofCodePoint (codePoint c) = c := by
  rw [ofCodePoint, isSurrogate_codePoint]
  cases h : isStandIn c with
  | true => rw [if_pos rfl, (codePoint_of_isStandIn h).2, Char.ofNat_toNat]
  | false => rw [if_neg Bool.false_ne_true, codePoint_of_not_isStandIn h, Char.ofNat_toNat]

theorem codePoint_lt (c : Char) : codePoint c < 0x110000 := by
  have hlt := toNat_lt c
  rw [codePoint]
  split <;> omega

/-- A code point beyond the first plane is that of no stand-in. -/
theorem toNat_of_le_codePoint (h : 0x10000 ≤ codePoint c) : c.toNat = codePoint c := by
  cases hstand : isStandIn c with
  | true =>
    have hsurrogate := (codePoint_of_isStandIn hstand).1
    rw [isSurrogate_iff] at hsurrogate
    omega
  | false => rw [codePoint_of_not_isStandIn hstand]

/-! ## Pairs of halves -/

/-- The halves of a code point beyond the first plane make its character. -/
theorem ofSurrogates_split (h : 0x10000 ≤ n) :
    ofSurrogates (0xd800 + (n - 0x10000) / 0x400) (0xdc00 + (n - 0x10000) % 0x400)
      = Char.ofNat n := by
  refine congrArg Char.ofNat ?_
  omega

theorem isHighSurrogate_split (h : n < 0x110000) :
    isHighSurrogate (0xd800 + (n - 0x10000) / 0x400) = true := by
  rw [isHighSurrogate_iff]
  omega

theorem isLowSurrogate_split (n : Nat) :
    isLowSurrogate (0xdc00 + (n - 0x10000) % 0x400) = true := by
  rw [isLowSurrogate_iff]
  omega

/-! ## Texts without pairs -/

/-- Two characters that stand for the halves of one pair. -/
def IsPair (c d : Char) : Prop :=
  isHighSurrogate (codePoint c) = true ∧ isLowSurrogate (codePoint d) = true

theorem IsPair.isStandIn {d : Char} (h : IsPair c d) : isStandIn c = true ∧ isStandIn d = true := by
  obtain ⟨hhigh, hlow⟩ := h
  rw [isHighSurrogate_iff] at hhigh
  rw [isLowSurrogate_iff] at hlow
  rw [← isSurrogate_codePoint, ← isSurrogate_codePoint, isSurrogate_iff, isSurrogate_iff]
  omega

/-- No character stands for both halves. -/
theorem not_isPair_self (c : Char) : ¬ IsPair c c := by
  rintro ⟨hhigh, hlow⟩
  rw [isHighSurrogate_iff] at hhigh
  rw [isLowSurrogate_iff] at hlow
  omega

/-- A text in which no two characters in a row stand for the halves of one pair, such as every text
without stand-ins. -/
def HasNoPair (s : List Char) : Prop :=
  s.IsChain fun c d ↦ ¬ IsPair c d

theorem hasNoPair_of_not_isStandIn {s : List Char} (h : ∀ c ∈ s, isStandIn c = false) :
    HasNoPair s := by
  refine List.Pairwise.isChain (List.pairwise_of_forall_mem_list fun c hc d _ hpair ↦ ?_)
  exact absurd hpair.isStandIn.1 (by simp [h c hc])

theorem hasNoPair_of_any_isStandIn {s : List Char} (h : s.any isStandIn = false) : HasNoPair s :=
  hasNoPair_of_not_isStandIn fun c hc ↦ Bool.eq_false_iff.mpr (List.any_eq_false.mp h c hc)

/-- A text without pairs has nothing to join. -/
theorem joinSurrogates_of_hasNoPair {s : List Char} (h : HasNoPair s) : joinSurrogates s = s := by
  fun_induction joinSurrogates s with
  | case1 => rfl
  | case2 => rfl
  | case3 c d rest hpair ih =>
    exact absurd (Bool.and_eq_true_iff.mp hpair) (List.isChain_cons_cons.mp h).1
  | case4 c d rest _ ih => rw [ih (List.isChain_cons_cons.mp h).2]

end TableProperties.Text
