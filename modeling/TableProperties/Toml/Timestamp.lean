import TableProperties.Binary64.Basic
import TableProperties.Document.Scalar

/-!
# Dates and times

The times, dates and points in time of a TOML text. A date and time is read off fixed columns; the
characters between the columns are not looked at. A value that does not read this way is no date.

## Main definitions

* `ClockForm.ofText?`: a time of day at the start of a text.
* `readDate?`: a date, with or without a time.
-/

namespace TableProperties.Toml

open Text Integer

/-! ## Times -/

/-- The parts of a time of day, as they are written. -/
structure ClockForm where
  hour : Nat
  minute : Nat
  second : Nat
  /-- The digits after the point, as a number. -/
  fraction : Nat
  deriving DecidableEq, Repr

/-- The value of two digits at the start of a text, and what follows. -/
def twoDigits? : List Char → Option (Nat × List Char)
  | a :: b :: rest => if a.isDigit && b.isDigit then some (decimalValue [a, b], rest) else none
  | _ => none

/-- Drops a colon. -/
def dropColon? : List Char → Option (List Char)
  | ':' :: rest => some rest
  | _ => none

/-- The time of day at the start of a text. Between three and six digits after a point count as
microseconds. -/
def ClockForm.ofText? (s : List Char) : Option ClockForm := do
  let (hour, s) ← twoDigits? s
  let (minute, s) ← (dropColon? s).bind twoDigits?
  let (second, s) ← (dropColon? s).bind twoDigits?
  let digits :=
    match s with
    | '.' :: s => (s.take 6).takeWhile Char.isDigit
    | _ => []
  return ⟨hour, minute, second, if digits.length < 3 then 0 else decimalValue digits⟩

/-! ## Dates -/

/-- The part of a text from one column up to another. -/
def columns (start stop : Nat) (s : List Char) : List Char :=
  (s.take stop).drop start

/-- The integer in some columns. -/
def number? (start stop : Nat) (s : List Char) : Option Int :=
  (readLiteral 10 (columns start stop s)).toOption

/-- The number in some columns, which must not be negative. -/
def part? (start stop : Nat) (s : List Char) : Option Nat :=
  (number? start stop s).bind fun n ↦ if n < 0 then none else some n.toNat

/-- A distance from universal time in minutes. -/
def readOffset? (s : List Char) : Option Int :=
  if s = ['Z'] then some 0
  else
    match number? 1 3 s, number? 4 6 s with
    | some hours, some minutes =>
      let n := hours * 60 + minutes
      some (if s.head? = some '-' then -n else n)
    | _, _ => none

/-- The microseconds that the digits after a point stand for; of more than six digits the value is
rounded as a floating point number and then cut off. -/
def microseconds? (digits : List Char) : Option Int :=
  (readLiteral 10 digits).toOption.map fun n ↦
    if digits.length ≤ 6 then n * 10 ^ (6 - digits.length)
    else
      match (Binary64.ofInt n).mul (.ofDecimal false 1 (6 - digits.length)) with
      | .finite negative m e => withSign negative (m * 2 ^ e.toNat / 2 ^ (-e).toNat)
      | _ => n

/-- Splits what follows the point of a second into its digits and the distance from universal
time. -/
def splitFraction (s : List Char) : List Char × Option (List Char) :=
  if s.getLast? = some 'Z' ∨ s.getLast? = some 'z' then (s.dropLast, some ['Z'])
  else
    let sign := if s.contains '+' then '+' else '-'
    if s.contains sign then (s.takeWhile (· != sign), some (s.dropWhile (· != sign)))
    else (s, none)

/-- Whether the fraction of a second in a date and time has so many digits that it exceeds all
floating point numbers when it is read as an integer. -/
def hasLongFraction (s : List Char) : Bool :=
  match s.drop 19 with
  | '.' :: rest =>
    let (digits, zone) := splitFraction rest
    match zone.mapM readOffset?, (readLiteral 10 digits).toOption with
    | some _, some n =>
      match Binary64.ofInt n with
      | .infinite _ => decide (6 < digits.length)
      | _ => false
    | _, _ => false
  | _ => false

/-- The microseconds and the distance from universal time behind the seconds of a date and time. If
one of them does not read, neither counts. -/
def readTail (s : List Char) : Int × Option Int :=
  match s with
  | [] => (0, none)
  | '.' :: rest =>
    let (digits, zone) := splitFraction rest
    match zone.mapM readOffset?, microseconds? digits with
    | some offset, some n => (n, offset)
    | _, _ => (0, none)
  | s => (0, readOffset? s)

/-- A date and time in fixed columns. -/
def readDateTime? (s : List Char) : Option DateTime := do
  let date ← (Date.of (← part? 0 4 s) (← part? 5 7 s) (← part? 8 10 s)).toOption
  let (microsecond, offset) := readTail (s.drop 19)
  if microsecond < 0 ∨ 999999 < microsecond then none
  let time ← (Time.of (← part? 11 13 s) (← part? 14 16 s) (← part? 17 19 s)
    microsecond.toNat).toOption
  return ⟨date, time, offset⟩

/-- A date, with a time unless it has ten characters. There is a hyphen behind the first
character. -/
def readDate? (s : List Char) : Option Scalar :=
  if !s.tail.contains '-' then none
  else if s.length = 10 then do
    let date ← (Date.of (← part? 0 4 s) (← part? 5 7 s) (← part? 8 10 s)).toOption
    return .date date
  else (readDateTime? s).map .dateTime

end TableProperties.Toml
