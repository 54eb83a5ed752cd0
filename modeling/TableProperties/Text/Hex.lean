import TableProperties.Power

/-!
# Hexadecimal digits

Code points written with a fixed number of hexadecimal digits, and the value of a digit when one is
read. Writing knows both cases of the letters, reading accepts either.
-/

namespace TableProperties.Text

/-- The hexadecimal digit of value `n`, with small letters; `n` counts modulo 16. -/
def hexDigit (n : Nat) : Char :=
  match n % 16 with
  | 10 => 'a' | 11 => 'b' | 12 => 'c' | 13 => 'd' | 14 => 'e' | 15 => 'f'
  | d => Char.ofNat (48 + d)

/-- The hexadecimal digit of value `n`, with capital letters. -/
def hexDigitUpper (n : Nat) : Char :=
  match n % 16 with
  | 10 => 'A' | 11 => 'B' | 12 => 'C' | 13 => 'D' | 14 => 'E' | 15 => 'F'
  | d => Char.ofNat (48 + d)

theorem hexDigit_mod (n : Nat) : hexDigit (n % 16) = hexDigit n := by
  simp only [hexDigit, Nat.mod_mod]

theorem hexDigitUpper_mod (n : Nat) : hexDigitUpper (n % 16) = hexDigitUpper n := by
  simp only [hexDigitUpper, Nat.mod_mod]

/-- The last `width` hexadecimal digits of `n`, most significant first. -/
def fixedHex (digit : Nat → Char) : Nat → Nat → List Char
  | 0, _ => []
  | width + 1, n => fixedHex digit width (n / 16) ++ [digit n]

@[simp] theorem length_fixedHex (digit : Nat → Char) (width n : Nat) :
    (fixedHex digit width n).length = width := by
  induction width generalizing n with
  | zero => rfl
  | succ width ih => simp [fixedHex, ih]

/-- The value of a hexadecimal digit, in either case. -/
def hexValue? (c : Char) : Option Nat :=
  let n := c.toNat
  if 0x30 ≤ n && n ≤ 0x39 then some (n - 0x30)
  else if 0x61 ≤ n && n ≤ 0x66 then some (n - 0x61 + 10)
  else if 0x41 ≤ n && n ≤ 0x46 then some (n - 0x41 + 10)
  else none

/-- The value of a run of hexadecimal digits, if all of them are. -/
def hexValueOf? (s : List Char) : Option Nat :=
  s.foldlM (fun n c ↦ (hexValue? c).map (16 * n + ·)) 0

end TableProperties.Text
