/-!
# Base 64

Bytes written with sixty-four characters, six bits each. Reading is lenient: characters outside the
alphabet are skipped, and the text ends at the padding that completes a group of four.
-/

namespace TableProperties.Text

/-- The six bits that a character of the alphabet stands for. -/
def sextet? (c : Char) : Option Nat :=
  let n := c.toNat
  if 'A' ≤ c ∧ c ≤ 'Z' then some (n - 0x41)
  else if 'a' ≤ c ∧ c ≤ 'z' then some (n - 0x61 + 26)
  else if '0' ≤ c ∧ c ≤ '9' then some (n - 0x30 + 52)
  else if c = '+' then some 62
  else if c = '/' then some 63
  else none

/-- Reads on inside a group of which `seen` characters have been read. Their bits that are in no
byte yet are `bits`, and `padding` counts the padding since the last of them. -/
def decodeBase64From (seen bits padding : Nat) : List Char → Option (List UInt8)
  | [] => if seen = 0 then some [] else none
  | c :: rest =>
    if c = '=' then
      if seen < 2 then decodeBase64From seen bits padding rest
      else if 4 ≤ seen + padding + 1 then some []
      else decodeBase64From seen bits (padding + 1) rest
    else
      match sextet? c, seen with
      | none, _ => decodeBase64From seen bits padding rest
      | some n, 0 => decodeBase64From 1 n 0 rest
      | some n, 1 => (decodeBase64From 2 (n % 16) 0 rest).map (.ofNat (bits * 4 + n / 16) :: ·)
      | some n, 2 => (decodeBase64From 3 (n % 4) 0 rest).map (.ofNat (bits * 16 + n / 4) :: ·)
      | some n, _ => (decodeBase64From 0 0 0 rest).map (.ofNat (bits * 64 + n) :: ·)

/-- The bytes that a text stands for, if its last group is complete or padded. -/
def decodeBase64? (s : List Char) : Option (List UInt8) :=
  decodeBase64From 0 0 0 s

end TableProperties.Text
