import TableProperties.Binary64.Shortest
import TableProperties.Calendar
import TableProperties.Text.Quoted

/-!
# Scalars of data files

The values without parts that a data file can hold, and their two texts: the one by which a scalar
becomes a property value or part of a key, and the one by which it is shown inside a list. They
differ for texts, which are quoted inside lists, and for dates. An integer with too many digits has
neither.

## Main definitions

* `Scalar`, `Scalar.text?`, `Scalar.shown?`.
* `Scalar.SameKey`: when two scalars are one key of a mapping.
-/

namespace TableProperties

/-- A value without parts. -/
inductive Scalar where
  | null
  | bool (b : Bool)
  | int (n : Int)
  | float (x : Binary64)
  | text (s : String)
  | date (d : Date)
  | time (t : Time)
  | dateTime (t : DateTime)
  | bytes (bs : List UInt8)
  deriving DecidableEq, Repr

namespace Scalar

/-- The text of a truth value inside keys and lists. -/
def boolText (b : Bool) : List Char :=
  if b then "True".toList else "False".toList

/-- The decimal form of an integer, unless it is too long. -/
def intText? (n : Int) : Option (List Char) :=
  let digits := Integer.decimal n
  let count := if n < 0 then digits.length - 1 else digits.length
  if count ≤ Integer.maxDigits then some digits else none

/-- One byte of a byte string, between quotes of the given kind. -/
def byteText (quote : Char) (b : UInt8) : List Char :=
  let c := Char.ofNat b.toNat
  if c = quote ∨ c = '\\' then ['\\', c]
  else if c = '\t' then ['\\', 't']
  else if c = '\n' then ['\\', 'n']
  else if c = '\r' then ['\\', 'r']
  else if 0x20 ≤ b.toNat ∧ b.toNat < 0x7f then [c]
  else '\\' :: 'x' :: Text.fixedHex Text.hexDigit 2 b.toNat

/-- The text of a byte string. -/
def bytesText (bs : List UInt8) : List Char :=
  let quote := Text.quoteFor (bs.map fun b ↦ Char.ofNat b.toNat)
  'b' :: quote :: (bs.flatMap (byteText quote) ++ [quote])

/-- The text of a scalar. -/
def text? : Scalar → Option (List Char)
  | null => some "None".toList
  | bool b => some (boolText b)
  | int n => intText? n
  | float x => some x.text
  | text s => some s.toList
  | date d => some d.text
  | time t => some t.text
  | dateTime t => some t.text
  | bytes bs => some (bytesText bs)

/-- How a scalar is shown inside a list. -/
def shown? : Scalar → Option (List Char)
  | text s => some (Text.quoted s.toList)
  | date d => some d.shown
  | time t => some t.shown
  | dateTime t => some t.shown
  | s => s.text?

/-! ## Keys -/

/-- A number as a multiple of the smallest positive double precision number. -/
def scaled? : Scalar → Option Int
  | bool b => some (if b then 2 ^ 1074 else 0)
  | int n => some (n * 2 ^ 1074)
  | float (.finite negative m e) => some (Binary64.scaled negative m e)
  | _ => none

/-- Whether two scalars are one key of a mapping: numbers and truth values are compared by their
numeric value, points in time by the instant, all others by their parts. -/
def SameKey (a b : Scalar) : Bool :=
  match a.scaled?, b.scaled? with
  | some m, some n => m == n
  | none, none =>
    match a, b with
    | dateTime t, dateTime u => t.Same u
    | a, b => a == b
  | _, _ => false

end Scalar

end TableProperties
