import TableProperties.Power

/-!
# Binary floating point numbers

Double precision numbers as exact data: a sign, a mantissa and a power of two. Every operation is
carried out on exact ratios of natural numbers and rounded once, to the nearest number and to an
even mantissa in a tie.

## Main definitions

* `Binary64`, with one representation for each number.
* `Binary64.ofRatio` rounds a ratio, `Binary64.ofDecimal` a decimal number.
* `Binary64.add`, `Binary64.mul`, `Binary64.neg`.
-/

namespace TableProperties

/-- A double precision number. -/
inductive Binary64 where
  /-- `mantissa * 2 ^ exponent`, or its negative. The mantissa has 53 bits, fewer only at the least
  exponent. -/
  | finite (negative : Bool) (mantissa : Nat) (exponent : Int)
  /-- An infinity. -/
  | infinite (negative : Bool)
  /-- Not a number. -/
  | nan
  deriving DecidableEq, Repr

namespace Binary64

/-- The exponent of the smallest positive number. -/
def leastExponent : Int := -1074

/-- The exponent of the largest finite number. -/
def greatestExponent : Int := 971

/-- Zero, with its sign. -/
def zero (negative : Bool) : Binary64 := .finite negative 0 leastExponent

/-- The quotient of two natural numbers, rounded to the nearest one and to an even one in a tie. -/
def roundDiv (num den : Nat) : Nat :=
  let q := num / den
  let r := num % den
  if 2 * r < den then q
  else if den < 2 * r then q + 1
  else q + q % 2

/-- Whether `2 ^ k ≤ num / den`. -/
def powerLe (k : Int) (num den : Nat) : Bool :=
  den * 2 ^ k.toNat ≤ num * 2 ^ (-k).toNat

/-- The greatest `k` with `2 ^ k ≤ num / den`, for positive arguments. -/
def floorLog2 (num den : Nat) : Int :=
  let k := (num.log2 : Int) - den.log2
  if powerLe k num den then k else k - 1

/-- The number nearest to `num / den`, with the given sign. -/
def ofRatio (negative : Bool) (num den : Nat) : Binary64 :=
  if num = 0 then zero negative
  else
    let exponent := max (floorLog2 num den - 52) leastExponent
    let mantissa := roundDiv (num * 2 ^ (-exponent).toNat) (den * 2 ^ exponent.toNat)
    let (mantissa, exponent) :=
      if mantissa = 2 ^ 53 then (2 ^ 52, exponent + 1) else (mantissa, exponent)
    if greatestExponent < exponent then .infinite negative
    else .finite negative mantissa exponent

/-- The number nearest to `digits * 10 ^ exponent`. Decimal exponents far outside the range are
decided by the size of the number alone. -/
def ofDecimal (negative : Bool) (digits : Nat) (exponent : Int) : Binary64 :=
  let size := exponent + (Nat.toDigits 10 digits).length
  if digits = 0 then zero negative
  else if 310 < size then .infinite negative
  else if size < -330 then zero negative
  else ofRatio negative (digits * 10 ^ exponent.toNat) (10 ^ (-exponent).toNat)

/-- The number nearest to an integer. -/
def ofInt (n : Int) : Binary64 :=
  ofRatio (decide (n < 0)) n.natAbs 1

/-- The number with the other sign. -/
def neg : Binary64 → Binary64
  | finite negative m e => finite (!negative) m e
  | infinite negative => infinite (!negative)
  | nan => nan

/-- A finite number as a signed multiple of the smallest positive one. -/
def scaled (negative : Bool) (mantissa : Nat) (exponent : Int) : Int :=
  let n : Nat := mantissa * 2 ^ (exponent - leastExponent).toNat
  if negative then -n else n

/-- The sum of two numbers. A sum of zero is negative only if both numbers are. -/
def add : Binary64 → Binary64 → Binary64
  | nan, _ | _, nan => nan
  | infinite a, infinite b => if a = b then infinite a else nan
  | infinite a, _ | _, infinite a => infinite a
  | finite a m e, finite b n f =>
    let sum := scaled a m e + scaled b n f
    if sum = 0 then zero (a && b)
    else ofRatio (decide (sum < 0)) sum.natAbs (2 ^ (-leastExponent).toNat)

/-- The product of two numbers. -/
def mul : Binary64 → Binary64 → Binary64
  | nan, _ | _, nan => nan
  | infinite a, infinite b => infinite (a != b)
  | infinite a, finite b m _ | finite b m _, infinite a =>
    if m = 0 then nan else infinite (a != b)
  | finite a m e, finite b n f =>
    ofRatio (a != b) (m * n * 2 ^ (e + f).toNat) (2 ^ (-(e + f)).toNat)

theorem roundDiv_one (n : Nat) : roundDiv n 1 = n := by
  simp [roundDiv, Nat.mod_one]

end Binary64

end TableProperties
