import TableProperties.Json.Printer
import TableProperties.Json.Reader
import TableProperties.Proofs.Integer
import TableProperties.Proofs.Text.Surrogate

/-!
# Written objects are read back

The text of an object is a JSON text, and reading it gives the members that were written, in their
order. Strings come back as they are, with one exception: where every character beyond ASCII is
escaped, two stand-ins that follow each other like the halves of a surrogate pair are written in the
same way as the character of the pair, and this character is what is read.

## Main statements

* `readString_writeString`: strings.
* `read_object`: objects of plain values.
* `isTextChar_of_mem_object`: no character of an object is changed when the text is read from a file.
-/

namespace TableProperties.Json

open Text

variable {c d : Char} {n : Nat} {tail : List Char}

/-! ## Characters of strings -/

theorem escapedUnit?_unitEscape (hn : n < 0x10000) (tail : List Char) :
    escapedUnit? (unitEscape n ++ tail) = some (n, tail) := by
  have hunit : hexValueOf? (fixedHex hexDigit 4 n) = some n := by
    rw [hexValueOf?_fixedHex hexValue?_hexDigit]
    exact congrArg some (Nat.mod_eq_of_lt hn)
  exact congrArg (Option.map (·, tail)) hunit

/-- A code unit stands for itself, unless it and the next one are the halves of a pair. -/
theorem stringChar?_unitEscape (hn : n < 0x10000)
    (h : isHighSurrogate n = true →
      ∀ low after, escapedUnit? tail = some (low, after) → isLowSurrogate low = false) :
    stringChar? (unitEscape n ++ tail) = some (ofCodePoint n, tail) := by
  have hunit := escapedUnit?_unitEscape hn tail
  rw [unitEscape, List.cons_append, List.cons_append] at hunit ⊢
  rw [stringChar?, hunit]
  by_cases hhigh : isHighSurrogate n = true
  · simp only [hhigh, if_true]
    cases htail : escapedUnit? tail with
    | none => rfl
    | some step =>
      obtain ⟨low, after⟩ := step
      simp [h hhigh low after htail]
  · simp only [hhigh, Bool.false_eq_true, if_false]

theorem stringChar?_pair {high low : Nat} (hhigh : isHighSurrogate high = true)
    (hlow : isLowSurrogate low = true) (tail : List Char) :
    stringChar? (unitEscape high ++ (unitEscape low ++ tail))
      = some (ofSurrogates high low, tail) := by
  have hhigh' := isHighSurrogate_iff.mp hhigh
  have hlow' := isLowSurrogate_iff.mp hlow
  have hunit := escapedUnit?_unitEscape (n := high) (by omega) (unitEscape low ++ tail)
  rw [unitEscape, List.cons_append, List.cons_append] at hunit ⊢
  rw [stringChar?, hunit]
  simp only [hhigh, if_true, escapedUnit?_unitEscape (n := low) (by omega) tail, hlow]

/-- The first code unit of an escaped character is the second half of a pair only if this half is
the whole character. -/
theorem escapedUnit?_charEscape {low : Nat} {after : List Char}
    (h : escapedUnit? (charEscape d ++ tail) = some (low, after))
    (hlow : isLowSurrogate low = true) : isLowSurrogate (codePoint d) = true := by
  rw [charEscape] at h
  split at h
  · next hlt =>
    rw [escapedUnit?_unitEscape hlt, Option.some.injEq, Prod.mk.injEq] at h
    exact h.1 ▸ hlow
  · have hbound := codePoint_lt d
    rw [List.append_assoc, escapedUnit?_unitEscape (by omega), Option.some.injEq,
      Prod.mk.injEq] at h
    rw [isLowSurrogate_iff, ← h.1] at hlow
    omega

theorem stringChar?_charEscape
    (h : isHighSurrogate (codePoint c) = true →
      ∀ low after, escapedUnit? tail = some (low, after) → isLowSurrogate low = false) :
    stringChar? (charEscape c ++ tail) = some (c, tail) := by
  rw [charEscape]
  split
  · next hlt => rw [stringChar?_unitEscape hlt h, ofCodePoint_codePoint]
  · next hge =>
    have hbound := codePoint_lt c
    have hfar : 0x10000 ≤ codePoint c := Nat.le_of_not_lt hge
    rw [List.append_assoc, stringChar?_pair (isHighSurrogate_split hbound)
      (isLowSurrogate_split _), ofSurrogates_split hfar, ← toNat_of_le_codePoint hfar,
      Char.ofNat_toNat]

theorem stringChar?_shortEscape {letter : Char} (h : shortEscape? c = some letter) :
    stringChar? ('\\' :: letter :: tail) = some (c, tail) ∧
      escapedUnit? ('\\' :: letter :: tail) = none := by
  unfold shortEscape? at h
  split at h
  all_goals first
    | (rw [Option.some.injEq] at h; subst h; exact ⟨rfl, rfl⟩)
    | exact absurd h (by simp)

theorem stringChar?_cons (hquote : c ≠ '"') (hslash : c ≠ '\\') (hleast : 0x20 ≤ c.toNat) :
    stringChar? (c :: tail) = some (c, tail) := by
  rw [stringChar?]
  · rw [if_neg]
    rintro (h | h | h)
    · exact hquote h
    · exact hslash h
    · omega
  · rintro rest h -
    exact hslash h
  · rintro e rest h -
    exact hslash h

theorem StringStyle.le_toNat_of_keeps {style : StringStyle} (h : style.keeps c = true) :
    0x20 ≤ c.toNat := by
  cases style with
  | ascii =>
    rw [keeps, Bool.and_eq_true, decide_eq_true_eq] at h
    exact h.1
  | plain => exact of_decide_eq_true h

/-- How one character is written: as a short escape, as it is, or by its code units. -/
theorem writeChar_cases (style : StringStyle) (c : Char) :
    (∃ letter, shortEscape? c = some letter ∧ writeChar style c = ['\\', letter]) ∨
      (c ≠ '"' ∧ c ≠ '\\' ∧ style.keeps c = true ∧ writeChar style c = [c]) ∨
      (style.keeps c = false ∧ writeChar style c = charEscape c) := by
  rw [writeChar]
  cases hshort : shortEscape? c with
  | some letter => exact .inl ⟨letter, rfl, rfl⟩
  | none =>
    by_cases hkeeps : style.keeps c = true
    · refine .inr (.inl ⟨?_, ?_, hkeeps, if_pos hkeeps⟩)
      · rintro rfl
        exact absurd hshort (by decide)
      · rintro rfl
        exact absurd hshort (by decide)
    · exact .inr (.inr ⟨Bool.eq_false_iff.mpr hkeeps, if_neg hkeeps⟩)

theorem stringChar?_writeChar {style : StringStyle}
    (h : style = .ascii → isHighSurrogate (codePoint c) = true →
      ∀ low after, escapedUnit? tail = some (low, after) → isLowSurrogate low = false) :
    stringChar? (writeChar style c ++ tail) = some (c, tail) := by
  rcases writeChar_cases style c with ⟨letter, hletter, heq⟩ | ⟨hquote, hslash, hkeeps, heq⟩ |
    ⟨hkeeps, heq⟩
  · rw [heq]
    exact (stringChar?_shortEscape hletter).1
  · rw [heq]
    exact stringChar?_cons hquote hslash (StringStyle.le_toNat_of_keeps hkeeps)
  · rw [heq]
    refine stringChar?_charEscape fun hhigh ↦ ?_
    cases style with
    | ascii => exact h rfl hhigh
    | plain =>
      -- only control characters are escaped in this style
      have hcontrol : c.toNat < 0x20 := by simpa [StringStyle.keeps] using hkeeps
      have hle : codePoint c ≤ c.toNat := by
        rw [codePoint]
        split <;> omega
      rw [isHighSurrogate_iff] at hhigh
      omega

theorem escapedUnit?_writeChar {style : StringStyle} {low : Nat} {after : List Char}
    (h : escapedUnit? (writeChar style d ++ tail) = some (low, after))
    (hlow : isLowSurrogate low = true) : isLowSurrogate (codePoint d) = true := by
  rcases writeChar_cases style d with ⟨letter, hletter, heq⟩ | ⟨-, hslash, -, heq⟩ | ⟨-, heq⟩
  · rw [heq] at h
    exact absurd (h.symm.trans (stringChar?_shortEscape hletter).2) (by simp)
  · rw [heq, List.singleton_append] at h
    unfold escapedUnit? at h
    split at h
    · next hcons => exact absurd (List.cons.inj hcons).1 hslash
    · exact absurd h (by simp)
  · rw [heq] at h
    exact escapedUnit?_charEscape h hlow

/-- A half of a surrogate pair is written by its code unit if everything beyond ASCII is escaped. -/
theorem writeChar_of_isSurrogate (h : isSurrogate (codePoint c) = true) :
    writeChar .ascii c = unitEscape (codePoint c) := by
  have hstand := (isSurrogate_codePoint c).symm.trans h
  have hfar := (codePoint_of_isStandIn hstand).2
  have hbounds := isSurrogate_iff.mp h
  have hshort : shortEscape? c = none := by
    unfold shortEscape?
    split
    all_goals first
      | rfl
      | exact absurd hstand (by decide)
  have hkeeps : StringStyle.ascii.keeps c = false := by
    rw [standInDistance] at hfar
    simp only [StringStyle.keeps, Bool.and_eq_false_iff, decide_eq_false_iff_not]
    omega
  have hunit : charEscape c = unitEscape (codePoint c) := by
    rw [charEscape, if_pos (by omega)]
  simp only [writeChar, hshort, hkeeps, Bool.false_eq_true, if_false, hunit]

/-! ## Strings -/

/-- The string that is read where one was written. -/
def StringStyle.readBack (style : StringStyle) (s : List Char) : List Char :=
  match style with
  | .ascii => joinSurrogates s
  | .plain => s

theorem StringStyle.readBack_of_hasNoPair (style : StringStyle) {s : List Char}
    (h : HasNoPair s) : style.readBack s = s := by
  cases style with
  | ascii => exact joinSurrogates_of_hasNoPair h
  | plain => rfl

theorem readString_quote (tail : List Char) : readString ('"' :: tail) = .ok ([], tail) := by
  rw [readString]

theorem readString_of_stringChar? {s : List Char} (h : stringChar? s = some (c, tail)) :
    readString s = (readString tail).map fun (cs, rest) ↦ (c :: cs, rest) := by
  rw [readString.eq_def]
  split
  · exact absurd h (by simp [stringChar?])
  · split
    · next hnone => exact absurd (h.symm.trans hnone) (by simp)
    · next d rest hsome =>
      obtain ⟨rfl, rfl⟩ := Prod.mk.inj (Option.some.inj (h.symm.trans hsome))
      rfl

theorem readString_ascii (s tail : List Char) :
    readString (s.flatMap (writeChar .ascii) ++ '"' :: tail) = .ok (joinSurrogates s, tail) := by
  fun_induction joinSurrogates s with
  | case1 => exact readString_quote tail
  | case2 c =>
    have hchar : stringChar? (writeChar .ascii c ++ '"' :: tail) = some (c, '"' :: tail) := by
      refine stringChar?_writeChar fun _ _ low after hunit ↦ ?_
      exact absurd hunit (by simp [escapedUnit?])
    rw [List.flatMap_singleton, readString_of_stringChar? hchar, readString_quote]
    rfl
  | case3 c d rest hpair ih =>
    obtain ⟨hhigh, hlow⟩ := Bool.and_eq_true_iff.mp hpair
    -- the two stand-ins are written as the one character of the pair would be
    have hhigh' := isHighSurrogate_iff.mp hhigh
    have hlow' := isLowSurrogate_iff.mp hlow
    have hc := writeChar_of_isSurrogate (isSurrogate_iff.mpr ⟨by omega, by omega⟩ :
      isSurrogate (codePoint c) = true)
    have hd := writeChar_of_isSurrogate (isSurrogate_iff.mpr ⟨by omega, by omega⟩ :
      isSurrogate (codePoint d) = true)
    rw [List.flatMap_cons, List.flatMap_cons, hc, hd, List.append_assoc, List.append_assoc,
      readString_of_stringChar? (stringChar?_pair hhigh hlow _), ih]
    rfl
  | case4 c d rest hpair ih =>
    rw [List.flatMap_cons, List.append_assoc]
    rw [readString_of_stringChar? (stringChar?_writeChar fun _ hhigh low after hunit ↦ ?_), ih]
    · rfl
    · -- a second half behind a first one would have been the case before
      rw [List.flatMap_cons, List.append_assoc] at hunit
      rw [Bool.eq_false_iff]
      exact fun hlow ↦ hpair (Bool.and_eq_true_iff.mpr ⟨hhigh, escapedUnit?_writeChar hunit hlow⟩)

theorem readString_plain (s tail : List Char) :
    readString (s.flatMap (writeChar .plain) ++ '"' :: tail) = .ok (s, tail) := by
  induction s with
  | nil => exact readString_quote tail
  | cons c rest ih =>
    rw [List.flatMap_cons, List.append_assoc,
      readString_of_stringChar? (stringChar?_writeChar fun h ↦ absurd h (by decide)), ih]
    rfl

/-- **Strings are read back.** -/
theorem readString_writeString (style : StringStyle) (s tail : List Char) :
    readString (s.flatMap (writeChar style) ++ '"' :: tail) = .ok (style.readBack s, tail) := by
  cases style with
  | ascii => exact readString_ascii s tail
  | plain => exact readString_plain s tail

/-! ## Plain values -/

/-- A text in which a value has come to its end: a comma or the end of the line is next. -/
def EndsValue (tail : List Char) : Prop :=
  ∃ c rest, tail = c :: rest ∧ (c = ',' ∨ c = '\n')

/-- Whether the numbers among the members have no more digits than are converted. -/
def Leaf.IsShort : Leaf → Prop
  | .int n => n.natAbs < 10 ^ Integer.maxDigits
  | _ => True

/-- What is read where a plain value was written. -/
def Leaf.readBack (style : StringStyle) : Leaf → Scalar
  | .null => .null
  | .bool b => .bool b
  | .int n => .int n
  | .text s => .text (String.ofList (style.readBack s.toList))

theorem takePart_of_endsValue (h : EndsValue tail) : takePart tail = ([], tail) := by
  obtain ⟨c, rest, rfl, rfl | rfl⟩ := h
  · rfl
  · rfl

theorem takePower_of_endsValue (h : EndsValue tail) : takePower tail = ([], tail) := by
  obtain ⟨c, rest, rfl, rfl | rfl⟩ := h
  · rfl
  · rfl

theorem takeWhole?_toDigits (h : EndsValue tail) (n : Nat) :
    takeWhole? (Nat.toDigits 10 n ++ tail) = some (Nat.toDigits 10 n, tail) := by
  obtain ⟨c, rest, rfl, hc⟩ := h
  have hend : c.isDigit = false := by
    rcases hc with rfl | rfl
    · decide
    · decide
  by_cases hn : n = 0
  · rw [hn, Nat.toDigits_zero]
    rfl
  · have hdigits : ∀ d ∈ Nat.toDigits 10 n, d.isDigit = true :=
      fun d hd ↦ Nat.isDigit_of_mem_toDigits (by decide) (by decide) hd
    have htake : (Nat.toDigits 10 n ++ c :: rest).takeWhile Char.isDigit = Nat.toDigits 10 n := by
      rw [List.takeWhile_append_of_pos hdigits, List.takeWhile_cons_of_neg (by simp [hend]),
        List.append_nil]
    have hdrop : (Nat.toDigits 10 n ++ c :: rest).dropWhile Char.isDigit = c :: rest := by
      rw [List.dropWhile_append_of_pos hdigits, List.dropWhile_cons_of_neg (by simp [hend])]
    have hne : (Nat.toDigits 10 n).isEmpty = false := by simp
    rw [takeWhole?]
    · simp only [htake, hdrop, hne, Bool.false_eq_true, if_false]
    · -- a leading zero would end the number at once
      intro rest' heq
      rcases List.append_eq_cons_iff.mp heq with ⟨hnil, -⟩ | ⟨front, hfront, -⟩
      · exact Nat.toDigits_ne_nil hnil
      · exact Integer.toDigits_ne_zero_cons (Nat.pos_of_ne_zero hn) front hfront

theorem takeMinus_decimal (n : Int) (tail : List Char) :
    takeMinus (Integer.decimal n ++ tail)
      = (Integer.signText n, Nat.toDigits 10 n.natAbs ++ tail) := by
  rw [Integer.decimal_eq, Integer.signText]
  by_cases hneg : n < 0
  · rw [if_pos hneg]
    rfl
  · rw [if_neg hneg, List.nil_append, takeMinus]
    intro rest heq
    rcases List.append_eq_cons_iff.mp heq with ⟨hnil, -⟩ | ⟨front, hfront, -⟩
    · exact Nat.toDigits_ne_nil hnil
    · have hmem : '-' ∈ Nat.toDigits 10 n.natAbs := hfront ▸ List.mem_cons_self
      exact absurd (Nat.isDigit_of_mem_toDigits (by decide) (by decide) hmem) (by decide)

theorem readNumber_decimal {n : Int} (hn : n.natAbs < 10 ^ Integer.maxDigits)
    (h : EndsValue tail) : readNumber (Integer.decimal n ++ tail) = .ok (.int n, tail) := by
  rw [readNumber, takeMinus_decimal]
  simp only [takeWhole?_toDigits h, takePart_of_endsValue h, takePower_of_endsValue h,
    List.isEmpty_nil, Bool.and_self, if_true, ← Integer.decimal_eq, Integer.readLiteral_decimal hn]

/-- The decimal form of an integer starts with a minus and a digit, or with a digit. -/
theorem decimal_append_cases (n : Int) (tail : List Char) :
    ∃ d rest, d.isDigit = true ∧
      (Integer.decimal n ++ tail = d :: rest ∨ Integer.decimal n ++ tail = '-' :: d :: rest) := by
  obtain ⟨d, ds, hdigits⟩ := List.exists_cons_of_ne_nil (l := Nat.toDigits 10 n.natAbs)
    Nat.toDigits_ne_nil
  have hd : d.isDigit = true :=
    Nat.isDigit_of_mem_toDigits (by decide) (by decide) (hdigits ▸ List.mem_cons_self)
  refine ⟨d, ds ++ tail, hd, ?_⟩
  rw [Integer.decimal_eq, Integer.signText, hdigits]
  by_cases hneg : n < 0
  · exact .inr (by rw [if_pos hneg]; rfl)
  · exact .inl (by rw [if_neg hneg]; rfl)

theorem word?_decimal (n : Int) (tail : List Char) : word? (Integer.decimal n ++ tail) = none := by
  obtain ⟨d, rest, hd, heq⟩ := decimal_append_cases n tail
  have hne {c : Char} (hc : c.isDigit = false) : c ≠ d := by
    rintro rfl
    exact absurd hd (by simp [hc])
  rcases heq with heq | heq
  · rw [heq]
    simp [word?, words, hne (c := 'n') rfl, hne (c := 't') rfl, hne (c := 'f') rfl,
      hne (c := 'N') rfl, hne (c := 'I') rfl, hne (c := '-') rfl]
  · rw [heq]
    simp [word?, words, hne (c := 'I') rfl]

theorem decimal_append_ne_cons (n : Int) (tail rest : List Char)
    (hc : c.isDigit = false) (hminus : c ≠ '-') : Integer.decimal n ++ tail ≠ c :: rest := by
  obtain ⟨d, ds, hd, heq | heq⟩ := decimal_append_cases n tail
  · rw [heq]
    rintro ⟨⟩
    exact absurd hd (by simp [hc])
  · rw [heq]
    rintro ⟨⟩
    exact hminus rfl

/-- A plain value is read back. -/
theorem readValue_writeLeaf (style : StringStyle) {leaf : Leaf} (hshort : leaf.IsShort)
    (h : EndsValue tail) (fuel : Nat) :
    readValue (fuel + 1) (writeLeaf style leaf ++ tail)
      = .ok (.scalar (leaf.readBack style), tail) := by
  cases leaf with
  | null => rfl
  | bool b => cases b <;> rfl
  | text s =>
    rw [writeLeaf, writeString, List.cons_append, List.append_assoc, List.singleton_append,
      readValue, readString_writeString]
    rfl
  | int n =>
    have hatom : readAtom (Integer.decimal n ++ tail) = .ok (.int n, tail) := by
      rw [readAtom, word?_decimal]
      exact readNumber_decimal hshort h
    rw [writeLeaf, readValue, hatom]
    · rfl
    all_goals exact fun rest ↦ decimal_append_ne_cons n tail rest (by decide) (by decide)

/-! ## Members -/

theorem skipSpace_cons (h : isSpace c = false) : skipSpace (c :: tail) = c :: tail :=
  List.dropWhile_cons_of_neg (by simp [h])

/-- No plain value starts with white space. -/
theorem skipSpace_writeLeaf (style : StringStyle) (leaf : Leaf) (tail : List Char) :
    skipSpace (writeLeaf style leaf ++ tail) = writeLeaf style leaf ++ tail := by
  cases leaf with
  | null => rfl
  | bool b => cases b <;> rfl
  | text s => exact skipSpace_cons rfl
  | int n =>
    rw [writeLeaf]
    obtain ⟨d, rest, hd, heq | heq⟩ := decimal_append_cases n tail
    · have hspace : isSpace d = false := by
        have hbounds := Integer.toNat_of_isDigit hd
        simp only [isSpace, Bool.or_eq_false_iff, beq_eq_false_iff_ne]
        refine ⟨⟨⟨?_, ?_⟩, ?_⟩, ?_⟩ <;> rintro rfl <;> exact absurd hd (by decide)
      rw [heq, skipSpace_cons hspace]
    · rw [heq]
      rfl

/-- A member from its key on, as it is written. -/
def memberText (style : StringStyle) (member : String × Leaf) : List Char :=
  writeString style member.1.toList ++ ':' :: ' ' :: writeLeaf style member.2

/-- The line break and the white space in front of a member. -/
def indent : List Char := ['\n', ' ', ' ', ' ', ' ']

/-- What is read where a member was written. -/
def memberReadBack (style : StringStyle) (member : String × Leaf) : Scalar × Document :=
  (.text (String.ofList (style.readBack member.1.toList)), .scalar (member.2.readBack style))

theorem skipSpace_indent (style : StringStyle) (member : String × Leaf) (tail : List Char) :
    skipSpace (indent ++ (memberText style member ++ tail)) = memberText style member ++ tail := rfl

theorem readKey_memberText (style : StringStyle) (member : String × Leaf) (tail : List Char) :
    readKey (memberText style member ++ tail)
      = .ok (String.ofList (style.readBack member.1.toList), writeLeaf style member.2 ++ tail) := by
  have htext : memberText style member ++ tail
      = '"' :: (member.1.toList.flatMap (writeChar style)
        ++ '"' :: ':' :: ' ' :: (writeLeaf style member.2 ++ tail)) := by
    simp [memberText, writeString]
  have hspace : skipSpace (' ' :: (writeLeaf style member.2 ++ tail))
      = writeLeaf style member.2 ++ tail := skipSpace_writeLeaf style member.2 tail
  rw [htext, readKey, readString_writeString]
  simp only [skipSpace_cons (c := ':') rfl, hspace]

/-- The members after the first one, and the closing brace. -/
def furtherText (style : StringStyle) (rest : List (String × Leaf)) (tail : List Char) : List Char :=
  rest.flatMap (fun m ↦ ',' :: (indent ++ memberText style m)) ++ '\n' :: '\x7d' :: tail

theorem endsValue_furtherText (style : StringStyle) (rest : List (String × Leaf))
    (tail : List Char) : EndsValue (furtherText style rest tail) := by
  cases rest with
  | nil => exact ⟨_, _, rfl, .inr rfl⟩
  | cons m rest => exact ⟨_, _, rfl, .inl rfl⟩

/-- Members are read back, given enough fuel for each of them. -/
theorem readMembers_furtherText {style : StringStyle} {first : String × Leaf}
    {rest : List (String × Leaf)} (hshort : ∀ m ∈ first :: rest, m.2.IsShort) {fuel : Nat}
    (hfuel : rest.length + 2 ≤ fuel) :
    readMembers fuel (memberText style first ++ furtherText style rest tail)
      = .ok ((first :: rest).map (memberReadBack style), tail) := by
  induction rest generalizing first fuel with
  | nil =>
    obtain ⟨fuel, rfl⟩ : ∃ k, fuel = k + 2 := Nat.exists_eq_add_of_le' hfuel
    have hvalue := readValue_writeLeaf style (hshort first List.mem_cons_self)
      (endsValue_furtherText style [] tail) fuel
    rw [readMembers, readKey_memberText]
    simp only [hvalue]
    rfl
  | cons second rest ih =>
    obtain ⟨fuel, rfl⟩ : ∃ k, fuel = k + 2 :=
      Nat.exists_eq_add_of_le' (Nat.le_trans (Nat.le_add_left 2 _) hfuel)
    have hvalue := readValue_writeLeaf style (hshort first List.mem_cons_self)
      (endsValue_furtherText style (second :: rest) tail) fuel
    have hfurther : furtherText style (second :: rest) tail
        = ',' :: (indent ++ (memberText style second ++ furtherText style rest tail)) := by
      simp [furtherText]
    have hrest := ih (fun m hm ↦ hshort m (List.mem_cons_of_mem _ hm))
      (Nat.le_of_succ_le_succ hfuel)
    rw [readMembers, readKey_memberText]
    simp only [hvalue]
    rw [hfurther, skipSpace_cons rfl]
    simp only [skipSpace_indent, hrest]
    rfl

/-! ## Objects -/

theorem flatten_memberPieces (style : StringStyle) (before : List Char) (member : String × Leaf) :
    (memberPieces style before member).flatten = before ++ (indent ++ memberText style member) := by
  simp [memberPieces, memberText, indent]

theorem flatten_flatMap_memberPieces (style : StringStyle) (rest : List (String × Leaf)) :
    (rest.flatMap (memberPieces style [','])).flatten
      = rest.flatMap fun m ↦ ',' :: (indent ++ memberText style m) := by
  induction rest with
  | nil => rfl
  | cons m rest ih =>
    rw [List.flatMap_cons, List.flatten_append, ih, flatten_memberPieces, List.flatMap_cons]
    rfl

theorem object_cons_append (style : StringStyle) (first : String × Leaf)
    (rest : List (String × Leaf)) (tail : List Char) :
    object style (first :: rest) ++ tail
      = '\x7b' :: (indent ++ (memberText style first ++ furtherText style rest tail)) := by
  rw [object, pieces, List.flatten_append, List.flatten_append, flatten_memberPieces,
    flatten_flatMap_memberPieces, furtherText]
  simp

theorem length_le_furtherText (style : StringStyle) (rest : List (String × Leaf))
    (tail : List Char) : rest.length ≤ (furtherText style rest tail).length := by
  induction rest with
  | nil => exact Nat.zero_le _
  | cons m rest ih =>
    have hfurther : (furtherText style (m :: rest) tail).length
        = (indent ++ memberText style m).length + 1 + (furtherText style rest tail).length := by
      simp [furtherText]
      omega
    rw [hfurther, List.length_cons]
    omega

/-- **Objects are read back.** White space may follow them. -/
theorem read_object {style : StringStyle} {members : List (String × Leaf)}
    (hshort : ∀ m ∈ members, m.2.IsShort) {blank : List Char}
    (hblank : ∀ c ∈ blank, isSpace c = true) :
    read (object style members ++ blank)
      = .ok (Document.ofEntries (members.map (memberReadBack style))) := by
  have hend : (skipSpace blank).isEmpty = true := by
    rw [skipSpace, List.dropWhile_eq_nil_iff.mpr hblank]
    rfl
  have hvalue : readValue (2 * (object style members ++ blank).length + 2)
      (skipSpace (object style members ++ blank))
        = .ok (Document.ofEntries (members.map (memberReadBack style)), blank) := by
    cases members with
    | nil => rfl
    | cons first rest =>
      have hlength := length_le_furtherText style rest blank
      rw [object_cons_append, skipSpace_cons rfl, readValue]
      simp only [skipSpace_indent]
      split
      · next heq => exact absurd (List.cons.inj heq).1 (by decide)
      · rw [readMembers_furtherText hshort]
        · rfl
        · simp only [List.length_cons, List.length_append]
          omega
  rw [read, hvalue]
  exact if_pos hend

/-! ## The characters of a text -/

/-- The characters that stand in JSON texts: line feeds and those that are no control characters. -/
def IsTextChar (c : Char) : Prop :=
  c = '\n' ∨ 0x20 ≤ c.toNat

theorem isTextChar_of_mem_unitEscape (h : c ∈ unitEscape n) : IsTextChar c := by
  rcases List.mem_cons.mp h with rfl | h
  · exact .inr (by decide)
  · rcases List.mem_cons.mp h with rfl | h
    · exact .inr (by decide)
    · have hdigit := forall_mem_fixedHex (P := fun c ↦ c.isAlphanum = true) isAlphanum_hexDigit 4 n c h
      exact .inr (Nat.le_trans (by decide) (toNat_of_isAlphanum hdigit).1)

theorem le_toNat_of_shortEscape? {letter : Char} (h : shortEscape? c = some letter) :
    0x20 ≤ letter.toNat := by
  unfold shortEscape? at h
  split at h
  all_goals first
    | (rw [Option.some.injEq] at h; subst h; decide)
    | exact absurd h (by simp)

theorem isTextChar_of_mem_writeChar {style : StringStyle} (h : d ∈ writeChar style c) :
    IsTextChar d := by
  rcases writeChar_cases style c with ⟨letter, hletter, heq⟩ | ⟨-, -, hkeeps, heq⟩ | ⟨-, heq⟩
  · rw [heq, List.mem_cons, List.mem_singleton] at h
    rcases h with rfl | rfl
    · exact .inr (by decide)
    · exact .inr (le_toNat_of_shortEscape? hletter)
  · rw [heq, List.mem_singleton] at h
    exact .inr (h ▸ StringStyle.le_toNat_of_keeps hkeeps)
  · rw [heq, charEscape] at h
    split at h
    · exact isTextChar_of_mem_unitEscape h
    · rcases List.mem_append.mp h with h | h
      · exact isTextChar_of_mem_unitEscape h
      · exact isTextChar_of_mem_unitEscape h

theorem isTextChar_of_mem_writeString {style : StringStyle} {s : List Char}
    (h : d ∈ writeString style s) : IsTextChar d := by
  rcases List.mem_cons.mp h with rfl | h
  · exact .inr (by decide)
  · rcases List.mem_append.mp h with h | h
    · obtain ⟨c, -, hc⟩ := List.mem_flatMap.mp h
      exact isTextChar_of_mem_writeChar hc
    · exact List.mem_singleton.mp h ▸ .inr (by decide)

theorem isTextChar_of_mem_writeLeaf {style : StringStyle} {leaf : Leaf}
    (h : d ∈ writeLeaf style leaf) : IsTextChar d := by
  cases leaf with
  | null =>
    have hall : ∀ c ∈ "null".toList, 0x20 ≤ c.toNat := by simp
    exact .inr (hall d h)
  | bool b =>
    have hall : ∀ b, ∀ c ∈ writeLeaf style (.bool b), 0x20 ≤ c.toNat := by
      rintro (_ | _) <;> simp [writeLeaf]
    exact .inr (hall b d h)
  | text s => exact isTextChar_of_mem_writeString h
  | int n =>
    rcases Integer.mem_decimal h with rfl | hdigit
    · exact .inr (by decide)
    · exact .inr (Nat.le_trans (by decide) (Integer.toNat_of_isDigit hdigit).1)

theorem isTextChar_of_mem_memberText {style : StringStyle} {member : String × Leaf}
    (h : d ∈ indent ++ memberText style member) : IsTextChar d := by
  rw [memberText, List.mem_append, List.mem_append, List.mem_cons, List.mem_cons] at h
  rcases h with h | h | rfl | rfl | h
  · simp only [indent, List.mem_cons, List.not_mem_nil, or_false] at h
    rcases h with rfl | rfl | rfl | rfl | rfl
    · exact .inl rfl
    all_goals exact .inr (by decide)
  · exact isTextChar_of_mem_writeString h
  · exact .inr (by decide)
  · exact .inr (by decide)
  · exact isTextChar_of_mem_writeLeaf h

/-- An object is text of lines without control characters. -/
theorem isTextChar_of_mem_object {style : StringStyle} {members : List (String × Leaf)}
    (h : d ∈ object style members) : IsTextChar d := by
  cases members with
  | nil =>
    have hall : ∀ c ∈ ['\x7b', '\x7d'], 0x20 ≤ c.toNat := by simp
    exact .inr (hall d h)
  | cons first rest =>
    have hobject := object_cons_append style first rest []
    rw [List.append_nil] at hobject
    rw [hobject, ← List.append_assoc] at h
    rcases List.mem_cons.mp h with rfl | h
    · exact .inr (by decide)
    · rcases List.mem_append.mp h with h | h
      · exact isTextChar_of_mem_memberText h
      · rcases List.mem_append.mp h with h | h
        · obtain ⟨member, -, h⟩ := List.mem_flatMap.mp h
          rcases List.mem_cons.mp h with rfl | h
          · exact .inr (by decide)
          · exact isTextChar_of_mem_memberText h
        · simp only [List.mem_cons, List.not_mem_nil, or_false] at h
          rcases h with rfl | rfl
          · exact .inl rfl
          · exact .inr (by decide)

theorem head?_object (style : StringStyle) (members : List (String × Leaf)) :
    (object style members).head? = some '\x7b' := by
  cases members with
  | nil => rfl
  | cons first rest =>
    have hobject := object_cons_append style first rest []
    rw [List.append_nil] at hobject
    rw [hobject]
    rfl

end TableProperties.Json
