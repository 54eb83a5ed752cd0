import TableProperties.Proofs.Integer
import TableProperties.Proofs.Interval.Terms
import TableProperties.Proofs.Text.Digit
import TableProperties.Property.Value

/-!
# Numerals

The integers of properties are written as numerals: a sign or none, and behind it digits of any
scripts, read in base ten. A numeral is the whole text, so that neither white space around it nor
anything between its digits is allowed. Three things can keep a text from being read, in this order:
it is no numeral, it has more digits than are converted, leading zeros among them, or its value is
out of bounds.

An integer is written as a numeral of itself. It is read back between bounds exactly if it lies
between them.

## Main statements

* `Denotes`: which text is a numeral of which integer.
* `readBounded_eq_iff`: what reading a text between two bounds gives.
* `readBounded_decimalText`: what it gives for the decimal form of an integer.
* `readsExactly_int32_int64`: integers of 32 and of 64 bits.
-/

namespace TableProperties.Integer

open Text
open TableProperties.Interval (Sign IsRun exists_sign_of_splitSign splitSign_append)

variable {s : List Char} {sign : Sign} {values : List Nat} {numeral : Numeral} {n : Int}

/-! ## Texts and the integers they denote -/

/-- Whether a text is, in full, a sign or none and one digit or more of the given values. -/
def IsNumeral (s : List Char) (sign : Sign) (values : List Nat) : Prop :=
  values ≠ [] ∧ ∃ digits, s = sign.text ++ digits ∧ List.Forall₂ IsDigitOf digits values

/-- The integer that has a sign and digits in base ten, of which the first is the most significant
one. -/
def ofSignedDigits (sign : Sign) (values : List Nat) : Int :=
  withSign sign.isNegative (Nat.ofDigits 10 values.reverse)

/-- Whether a text is a numeral of an integer, with no more digits than are converted. -/
def Denotes (s : List Char) (n : Int) : Prop :=
  ∃ sign values, IsNumeral s sign values ∧ values.length ≤ maxDigits ∧
    ofSignedDigits sign values = n

theorem isNumeral_iff :
    IsNumeral s sign values ↔
      ∃ digits, IsRun isDigit digits ∧ s = sign.text ++ digits ∧
        digits.map digitValue = values := by
  simp only [IsNumeral, forall₂_isDigitOf_iff]
  constructor
  · rintro ⟨hne, digits, hs, hdigits, rfl⟩
    exact ⟨digits, ⟨mt List.map_eq_nil_iff.mpr hne, hdigits⟩, hs, rfl⟩
  · rintro ⟨digits, ⟨hne, hdigits⟩, hs, rfl⟩
    exact ⟨mt List.map_eq_nil_iff.mp hne, digits, hs, hdigits, rfl⟩

theorem ofSignedDigits_map_digitValue (sign : Sign) (digits : List Char) :
    ofSignedDigits sign (digits.map digitValue)
      = withSign sign.isNegative (decimalValue digits) := by
  rw [ofSignedDigits, decimalValue_eq_ofDigits]

/-! ## Taking a text apart -/

/-- A text is taken apart as a numeral exactly if it is one. -/
theorem Numeral.ofText?_eq_some_iff :
    Numeral.ofText? s = some numeral ↔
      ∃ sign : Sign, IsRun isDigit numeral.digits ∧ s = sign.text ++ numeral.digits ∧
        sign.isNegative = numeral.negative := by
  constructor
  · intro h
    obtain ⟨sign, hs, hnegative⟩ := exists_sign_of_splitSign s
    simp only [Numeral.ofText?] at h
    split at h
    · next hrun =>
      obtain rfl := Option.some.inj h
      rw [Bool.and_eq_true, Bool.not_eq_true', List.isEmpty_eq_false_iff, List.all_eq_true] at hrun
      exact ⟨sign, hrun, hs, hnegative.symm⟩
    · exact absurd h (by simp)
  · rintro ⟨sign, hrun, rfl, hnegative⟩
    have hsplit := splitSign_append (t := []) sign hrun
    rw [List.append_nil, List.append_nil] at hsplit
    have hdigits : (!numeral.digits.isEmpty && numeral.digits.all isDigit) = true := by
      rw [Bool.and_eq_true, Bool.not_eq_true', List.isEmpty_eq_false_iff, List.all_eq_true]
      exact hrun
    simp only [Numeral.ofText?, hsplit, hdigits, if_true, hnegative]

theorem exists_isNumeral_of_ofText? (h : Numeral.ofText? s = some numeral) :
    ∃ sign values, IsNumeral s sign values ∧ values.length = numeral.digits.length ∧
      ofSignedDigits sign values = withSign numeral.negative (decimalValue numeral.digits) := by
  obtain ⟨sign, hrun, hs, hnegative⟩ := Numeral.ofText?_eq_some_iff.mp h
  refine ⟨sign, _, isNumeral_iff.mpr ⟨_, hrun, hs, rfl⟩, List.length_map _, ?_⟩
  rw [ofSignedDigits_map_digitValue, hnegative]

theorem exists_ofText?_of_isNumeral (h : IsNumeral s sign values) :
    ∃ numeral, Numeral.ofText? s = some numeral ∧ numeral.digits.length = values.length ∧
      withSign numeral.negative (decimalValue numeral.digits) = ofSignedDigits sign values := by
  obtain ⟨digits, hrun, hs, rfl⟩ := isNumeral_iff.mp h
  refine ⟨⟨sign.isNegative, digits⟩, Numeral.ofText?_eq_some_iff.mpr ⟨sign, hrun, hs, rfl⟩,
    (List.length_map _).symm, ?_⟩
  rw [ofSignedDigits_map_digitValue]

theorem value_eq_ok_of_length_le (h : numeral.digits.length ≤ maxDigits) :
    numeral.value = .ok (withSign numeral.negative (decimalValue numeral.digits)) := by
  rw [Numeral.value, if_pos h]

theorem value_eq_error_of_lt_length (h : maxDigits < numeral.digits.length) :
    numeral.value = .error (.tooManyDigits numeral.digits.length) := by
  rw [Numeral.value, if_neg (Nat.not_le.mpr h)]

/-! ## Reading between bounds -/

section Bounds

variable {least greatest : Int} {raw : String} {x : Except Rejection Int}

/-- What a text is read as between two bounds. There is one rule for a value, and one for each
reason why there is none. -/
inductive ReadsAs (least greatest : Int) (raw : String) : Except Rejection Int → Prop
  /-- The text is a numeral whose value is between the bounds. -/
  | value {n : Int} (hdenotes : Denotes raw.toList n) (hleast : least ≤ n)
      (hgreatest : n ≤ greatest) : ReadsAs least greatest raw (.ok n)
  /-- The text is no numeral. -/
  | malformed (h : ∀ sign values, ¬ IsNumeral raw.toList sign values) :
      ReadsAs least greatest raw (.error (.notInteger raw))
  /-- The text is a numeral with more digits than are converted. -/
  | tooManyDigits {sign : Sign} {values : List Nat} (h : IsNumeral raw.toList sign values)
      (hlength : maxDigits < values.length) :
      ReadsAs least greatest raw (.error (.tooManyDigits values.length))
  /-- The text is a numeral whose value is not between the bounds. -/
  | outOfRange {n : Int} (hdenotes : Denotes raw.toList n)
      (hbounds : ¬ (least ≤ n ∧ n ≤ greatest)) :
      ReadsAs least greatest raw (.error (.outOfRange raw))

theorem readBounded_of_isNumeral (h : IsNumeral raw.toList sign values) :
    readBounded least greatest raw =
      if values.length ≤ maxDigits then
        if least ≤ ofSignedDigits sign values ∧ ofSignedDigits sign values ≤ greatest then
          .ok (ofSignedDigits sign values)
        else .error (.outOfRange raw)
      else .error (.tooManyDigits values.length) := by
  obtain ⟨numeral, htext, hlength, hvalue⟩ := exists_ofText?_of_isNumeral h
  rw [readBounded, htext, ← hlength, ← hvalue]
  by_cases hfew : numeral.digits.length ≤ maxDigits
  · simp only [value_eq_ok_of_length_le hfew, hfew, if_true]
  · simp only [value_eq_error_of_lt_length (Nat.not_le.mp hfew), hfew, if_false]

theorem readBounded_of_not_isNumeral (h : ∀ sign values, ¬ IsNumeral raw.toList sign values) :
    readBounded least greatest raw = .error (.notInteger raw) := by
  rw [readBounded]
  cases htext : Numeral.ofText? raw.toList with
  | none => rfl
  | some numeral =>
    obtain ⟨sign, values, hnumeral, -, -⟩ := exists_isNumeral_of_ofText? htext
    exact absurd hnumeral (h sign values)

theorem readsAs_readBounded (least greatest : Int) (raw : String) :
    ReadsAs least greatest raw (readBounded least greatest raw) := by
  by_cases hnumeral : ∃ sign values, IsNumeral raw.toList sign values
  · obtain ⟨sign, values, hnumeral⟩ := hnumeral
    rw [readBounded_of_isNumeral hnumeral]
    by_cases hfew : values.length ≤ maxDigits
    · have hdenotes : Denotes raw.toList (ofSignedDigits sign values) :=
        ⟨sign, values, hnumeral, hfew, rfl⟩
      rw [if_pos hfew]
      split
      · next hbounds => exact .value hdenotes hbounds.1 hbounds.2
      · next hbounds => exact .outOfRange hdenotes hbounds
    · rw [if_neg hfew]
      exact .tooManyDigits hnumeral (Nat.not_le.mp hfew)
  · simp only [not_exists] at hnumeral
    rw [readBounded_of_not_isNumeral hnumeral]
    exact .malformed hnumeral

/-- The rules determine what a text is read as. -/
theorem readBounded_eq_iff :
    readBounded least greatest raw = x ↔ ReadsAs least greatest raw x := by
  constructor
  · rintro rfl
    exact readsAs_readBounded least greatest raw
  · rintro (⟨⟨sign, values, hnumeral, hfew, rfl⟩, hleast, hgreatest⟩ | hmalformed |
      ⟨hnumeral, hmany⟩ | ⟨⟨sign, values, hnumeral, hfew, rfl⟩, hbounds⟩)
    · rw [readBounded_of_isNumeral hnumeral, if_pos hfew, if_pos ⟨hleast, hgreatest⟩]
    · exact readBounded_of_not_isNumeral hmalformed
    · rw [readBounded_of_isNumeral hnumeral, if_neg (Nat.not_le.mpr hmany)]
    · rw [readBounded_of_isNumeral hnumeral, if_pos hfew, if_neg hbounds]

theorem readBounded_eq_ok_iff :
    readBounded least greatest raw = .ok n ↔
      Denotes raw.toList n ∧ least ≤ n ∧ n ≤ greatest := by
  rw [readBounded_eq_iff]
  constructor
  · rintro ⟨hdenotes, hleast, hgreatest⟩
    exact ⟨hdenotes, hleast, hgreatest⟩
  · rintro ⟨hdenotes, hleast, hgreatest⟩
    exact .value hdenotes hleast hgreatest

end Bounds

/-! ## Decimal forms -/

theorem isDigit_of_isAsciiDigit {c : Char} (h : c.isDigit = true) : isDigit c = true := by
  rw [isDigit, digitValue?_of_isDigit h]
  rfl

theorem decimalValue_of_forall_isDigit {digits : List Char}
    (h : ∀ c ∈ digits, c.isDigit = true) :
    decimalValue digits = Nat.ofDigitChars 10 digits 0 := by
  refine List.foldl_ext _ _ 0 fun value c hc ↦ ?_
  rw [digitValue, digitValue?_of_isDigit (h c hc)]
  rfl

/-- An integer is written as a numeral of itself. -/
theorem exists_isNumeral_decimal (n : Int) :
    ∃ sign values, IsNumeral (decimal n) sign values ∧ ofSignedDigits sign values = n ∧
      values.length = (Nat.toDigits 10 n.natAbs).length := by
  have hdigits : ∀ c ∈ Nat.toDigits 10 n.natAbs, c.isDigit = true :=
    fun c hc ↦ Nat.isDigit_of_mem_toDigits (by decide) (by decide) hc
  have hrun : IsRun isDigit (Nat.toDigits 10 n.natAbs) :=
    ⟨Nat.toDigits_ne_nil, fun c hc ↦ isDigit_of_isAsciiDigit (hdigits c hc)⟩
  have hvalue : decimalValue (Nat.toDigits 10 n.natAbs) = n.natAbs := by
    rw [decimalValue_of_forall_isDigit hdigits, Nat.ofDigitChars_toDigits (by decide) (by decide)]
  rw [decimal_eq, signText]
  by_cases hneg : n < 0
  · refine ⟨.minus, _, isNumeral_iff.mpr ⟨_, hrun, by rw [if_pos hneg]; rfl, rfl⟩, ?_,
      List.length_map _⟩
    rw [ofSignedDigits_map_digitValue, hvalue]
    change -(n.natAbs : Int) = n
    omega
  · refine ⟨.none, _, isNumeral_iff.mpr ⟨_, hrun, by rw [if_neg hneg]; rfl, rfl⟩, ?_,
      List.length_map _⟩
    rw [ofSignedDigits_map_digitValue, hvalue]
    change (n.natAbs : Int) = n
    omega

/-- An integer that is not too long is read back from its decimal form if it is between the
bounds. -/
theorem readBounded_decimalText (least greatest n : Int) :
    readBounded least greatest (decimalText n) =
      if n.natAbs < 10 ^ maxDigits then
        if least ≤ n ∧ n ≤ greatest then .ok n else .error (.outOfRange (decimalText n))
      else .error (.tooManyDigits (Nat.toDigits 10 n.natAbs).length) := by
  obtain ⟨sign, values, hnumeral, hvalue, hlength⟩ := exists_isNumeral_decimal n
  have hfew : (Nat.toDigits 10 n.natAbs).length ≤ maxDigits ↔ n.natAbs < 10 ^ maxDigits :=
    Nat.length_toDigits_le_iff (by decide) (by decide)
  have htext : IsNumeral (decimalText n).toList sign values := by
    rw [decimalText, String.toList_ofList]
    exact hnumeral
  rw [readBounded_of_isNumeral htext]
  simp only [hvalue, hlength, hfew]

/-! ## Integers of 32 and of 64 bits -/

/-- What a reader of integers between two bounds does: it reads the numerals of these integers and
rejects all other texts, so that the decimal form of an integer is read back or rejected. -/
structure ReadsExactly (read : String → Except Rejection Int) (least greatest : Int) : Prop where
  /-- What is read is a numeral of an integer between the bounds. -/
  eq_ok_iff : ∀ raw n, read raw = .ok n ↔ Denotes raw.toList n ∧ least ≤ n ∧ n ≤ greatest
  /-- All other texts are rejected, each for its own reason. -/
  eq_iff : ∀ raw x, read raw = x ↔ ReadsAs least greatest raw x
  /-- Integers between the bounds are read back. -/
  decimal_eq_ok : ∀ n, least ≤ n → n ≤ greatest → read (decimalText n) = .ok n
  /-- Other integers are not. -/
  decimal_eq_error : ∀ n, ¬ (least ≤ n ∧ n ≤ greatest) →
    ∃ rejection, read (decimalText n) = .error rejection

theorem readsExactly_readBounded {least greatest : Int} (hleast : -(2 ^ 63) ≤ least)
    (hgreatest : greatest < 2 ^ 63) :
    ReadsExactly (readBounded least greatest) least greatest where
  eq_ok_iff _ _ := readBounded_eq_ok_iff
  eq_iff _ _ := readBounded_eq_iff
  decimal_eq_ok n hn hn' := by
    have hwide : 10 ^ 19 ≤ 10 ^ maxDigits := Nat.pow_le_pow_right (by decide) (by decide)
    have hfew : n.natAbs < 10 ^ maxDigits := Nat.lt_of_lt_of_le (by omega) hwide
    rw [readBounded_decimalText, if_pos hfew, if_pos ⟨hn, hn'⟩]
  decimal_eq_error n hbounds := by
    rw [readBounded_decimalText, if_neg hbounds]
    split
    · exact ⟨_, rfl⟩
    · exact ⟨_, rfl⟩

/-- **Integers are read exactly.** A text is read as an integer of 32 or of 64 bits if and only if
it is a numeral of this integer, in full and with no more digits than are converted, and the integer
has no more bits; all other texts are rejected. So the decimal form of an integer is read back if it
fits and rejected otherwise, and what is read with 32 bits is read with 64 bits as the same integer.
-/
theorem readsExactly_int32_int64 :
    ReadsExactly readInt32 (-(2 ^ 31)) (2 ^ 31 - 1) ∧
      ReadsExactly readInt64 (-(2 ^ 63)) (2 ^ 63 - 1) ∧
      ∀ raw n, readInt32 raw = .ok n → readInt64 raw = .ok n := by
  refine ⟨readsExactly_readBounded (by decide) (by decide),
    readsExactly_readBounded (by decide) (by decide), fun raw n h ↦ ?_⟩
  obtain ⟨hdenotes, hleast, hgreatest⟩ := readBounded_eq_ok_iff.mp h
  exact readBounded_eq_ok_iff.mpr ⟨hdenotes, by omega, by omega⟩

/-- The digits may be of several scripts and start with zeros. -/
theorem readInt64_of_mixed_digits :
    readInt32 "-0\u06634" = .ok (-34) ∧ readInt64 "-0\u06634" = .ok (-34) := by
  have hread : readInt32 "-0\u06634" = .ok (-34) := by decide +kernel
  exact ⟨hread, readsExactly_int32_int64.2.2 _ _ hread⟩

end TableProperties.Integer
