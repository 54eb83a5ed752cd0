import TableProperties.Binary64.Basic
import TableProperties.Integer

/-!
# The shortest decimal form

A number is written with the fewest significant digits that read back as the same number, and among
those with the digits nearest to it. The form is positional, with a digit on both sides of the
point, for numbers from `10⁻⁴` up to but excluding `10¹⁶`, and scientific beyond.

## Main definitions

* `Binary64.shortest?` searches for the digits.
* `Binary64.text` writes a number.
-/

namespace TableProperties.Binary64

open Integer

/-- A decimal number: `digits * 10 ^ exponent`. -/
structure DecimalForm where
  /-- The significant digits, read as a number. -/
  digits : Nat
  /-- The power of ten by which they are scaled. -/
  exponent : Int
  deriving DecidableEq, Repr

/-- A finite number as a ratio. -/
def ratio (mantissa : Nat) (exponent : Int) : Nat × Nat :=
  (mantissa * 2 ^ exponent.toNat, 2 ^ (-exponent).toNat)

/-- Whether `10 ^ k ≤ num / den`. -/
def tenPowerLe (k : Int) (num den : Nat) : Bool :=
  den * 10 ^ k.toNat ≤ num * 10 ^ (-k).toNat

/-- The greatest `k` with `10 ^ k ≤ num / den`, for positive arguments: an estimate from the binary
logarithm, corrected by at most one. -/
def floorLog10 (num den : Nat) : Int :=
  let k := (floorLog2 num den * 30103).fdiv 100000
  if tenPowerLe (k + 1) num den then k + 1
  else if tenPowerLe k num den then k
  else k - 1

/-- Whether a decimal number reads as the given positive number. -/
def readsAs (d : DecimalForm) (mantissa : Nat) (exponent : Int) : Bool :=
  ofDecimal false d.digits d.exponent == .finite false mantissa exponent

/-- The neighbour of a number among the multiples of `10 ^ grid` that reads as the number and is
nearest to it; in a tie the even multiple comes first. -/
def onGrid? (grid : Int) (mantissa : Nat) (exponent : Int) : Option DecimalForm :=
  let (num, den) := ratio mantissa exponent
  let num := num * 10 ^ (-grid).toNat
  let den := den * 10 ^ grid.toNat
  let below := num / den
  let nearest := roundDiv num den
  let candidates := if nearest = below then [below, below + 1] else [below + 1, below]
  (candidates.map fun n ↦ DecimalForm.mk n grid).find? (readsAs · mantissa exponent)

/-- The decimal number with the fewest digits that reads as the given positive number. Seventeen
digits always suffice. -/
def shortest? (mantissa : Nat) (exponent : Int) : Option DecimalForm :=
  let (num, den) := ratio mantissa exponent
  let top := floorLog10 num den
  (List.range 17).findSome? fun (n : Nat) ↦ onGrid? (top - n) mantissa exponent

/-- Digits and point positions that are written without a power of ten: the point stands after more
than `-4` and at most `16` digits. -/
def isPositional (point : Int) : Bool :=
  -4 < point && point ≤ 16

/-- Writes digits with the point after the first `point` of them. -/
def positional (digits : List Char) (point : Int) : List Char :=
  if point ≤ 0 then '0' :: '.' :: (List.replicate (-point).toNat '0' ++ digits)
  else if digits.length ≤ point then
    digits ++ List.replicate (point.toNat - digits.length) '0' ++ ['.', '0']
  else digits.take point.toNat ++ '.' :: digits.drop point.toNat

/-- Writes digits with the point after the first one and a signed power of ten of at least two
digits. -/
def scientific (digits : List Char) (point : Int) : List Char :=
  let power := point - 1
  digits.take 1 ++ (if digits.length ≤ 1 then [] else '.' :: digits.drop 1) ++
    ['e', if power < 0 then '-' else '+'] ++ padded 2 power.natAbs

/-- Digits without the zeros at their end. -/
def dropTrailingZeros (digits : List Char) : List Char :=
  (digits.reverse.dropWhile (· == '0')).reverse

/-- The text of a positive number. The upper neighbour on a grid may be a power of ten, which has
one digit more than the grid; its zeros are dropped. -/
def positiveText (mantissa : Nat) (exponent : Int) : List Char :=
  match shortest? mantissa exponent with
  | none => []
  | some d =>
    let all := Nat.toDigits 10 d.digits
    let point := all.length + d.exponent
    let digits := dropTrailingZeros all
    if isPositional point then positional digits point else scientific digits point

/-- The text of a number. -/
def text : Binary64 → List Char
  | nan => ['n', 'a', 'n']
  | infinite negative => (if negative then ['-'] else []) ++ ['i', 'n', 'f']
  | finite negative m e =>
    (if negative then ['-'] else []) ++ (if m = 0 then ['0', '.', '0'] else positiveText m e)

end TableProperties.Binary64
