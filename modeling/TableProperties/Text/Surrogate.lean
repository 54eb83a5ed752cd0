/-!
# Halves of surrogate pairs

An escape in a data file can give half of a surrogate pair, which is a code point but no character.
A string keeps it as a *stand-in*, a character for private use that lies at a fixed distance. Where
code points are written by number, a stand-in is written as the half for which it stands. Nothing
tells a stand-in from the same character in a text of its own, so the characters at these places
count as halves wherever they occur.

## Main definitions

* `ofCodePoint` and `codePoint`: from code points to characters and back.
* `joinSurrogates`: makes one character of two halves that follow each other.
-/

namespace TableProperties.Text

/-- Whether a code point is the first half of a surrogate pair. -/
def isHighSurrogate (n : Nat) : Bool :=
  0xd800 ≤ n && n ≤ 0xdbff

/-- Whether a code point is the second half of a surrogate pair. -/
def isLowSurrogate (n : Nat) : Bool :=
  0xdc00 ≤ n && n ≤ 0xdfff

/-- Whether a code point is half of a surrogate pair. -/
def isSurrogate (n : Nat) : Bool :=
  0xd800 ≤ n && n ≤ 0xdfff

/-- The distance from the halves of surrogate pairs to their stand-ins. -/
def standInDistance : Nat := 0xf0000

/-- The character of a code point; for half of a surrogate pair, its stand-in. -/
def ofCodePoint (n : Nat) : Char :=
  Char.ofNat (if isSurrogate n then n + standInDistance else n)

/-- Whether a character stands for half of a surrogate pair. -/
def isStandIn (c : Char) : Bool :=
  isSurrogate (c.toNat - standInDistance)

/-- The code point for which a character stands. -/
def codePoint (c : Char) : Nat :=
  if isStandIn c then c.toNat - standInDistance else c.toNat

/-- The character of a surrogate pair. -/
def ofSurrogates (high low : Nat) : Char :=
  Char.ofNat (0x10000 + (high - 0xd800) * 0x400 + (low - 0xdc00))

/-- Makes one character of two stand-ins that follow each other like the halves of a pair. -/
def joinSurrogates : List Char → List Char
  | [] => []
  | [c] => [c]
  | c :: d :: rest =>
    if isHighSurrogate (codePoint c) && isLowSurrogate (codePoint d) then
      ofSurrogates (codePoint c) (codePoint d) :: joinSurrogates rest
    else c :: joinSurrogates (d :: rest)

/-- No half of a surrogate pair is lost. -/
theorem codePoint_ofCodePoint {n : Nat} (h : isSurrogate n = true) :
    codePoint (ofCodePoint n) = n := by
  have hn : (0xd800 ≤ n) ∧ (n ≤ 0xdfff) := by simpa [isSurrogate] using h
  have hvalid : (n + standInDistance).isValidChar := by
    unfold standInDistance Nat.isValidChar
    omega
  have hto : (ofCodePoint n).toNat = n + standInDistance := by
    unfold ofCodePoint
    rw [if_pos h, Char.ofNat, dif_pos hvalid]
    rfl
  simp [codePoint, isStandIn, hto, h]

end TableProperties.Text
