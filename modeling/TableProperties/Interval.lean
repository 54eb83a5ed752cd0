import TableProperties.Integer
import TableProperties.Text.Lower
import TableProperties.Text.Quoted

/-!
# Calendar intervals

An interval is written as one or more `<number> <unit>` pairs, separated by white space, after an
optional keyword: `interval 1 week`, `1 day 12 hours`. Its length is the sum of the pairs, counted
in microseconds and reported in milliseconds. Months and years have no fixed length and are
refused by name.

## Main definitions

* `TimeUnit`: the units of fixed length, and how many microseconds each has.
* `Pair.ofFront?`: the pair at the front of a text.
* `microsOf`: the length of a list of pairs, with every partial sum in 64 bits.
* `millisOfText`: the length that a text denotes.
-/

namespace TableProperties.Interval

open Text Integer

/-! ## Units -/

/-- The units of fixed length. -/
inductive TimeUnit where
  | microsecond
  | millisecond
  | second
  | minute
  | hour
  | day
  | week
  deriving DecidableEq, Repr

namespace TimeUnit

/-- Every unit, the shortest first. -/
def all : List TimeUnit :=
  [microsecond, millisecond, second, minute, hour, day, week]

/-- The name of a unit, in the singular. -/
def name : TimeUnit → List Char
  | microsecond => "microsecond".toList
  | millisecond => "millisecond".toList
  | second => "second".toList
  | minute => "minute".toList
  | hour => "hour".toList
  | day => "day".toList
  | week => "week".toList

/-- The length of a unit in microseconds. -/
def micros : TimeUnit → Int
  | microsecond => 1
  | millisecond => 1000
  | second => 1000000
  | minute => 60 * 1000000
  | hour => 60 * 60 * 1000000
  | day => 24 * 60 * 60 * 1000000
  | week => 7 * 24 * 60 * 60 * 1000000

/-- The unit of a name in the singular. -/
def ofName? (s : List Char) : Option TimeUnit :=
  all.find? fun unit ↦ unit.name == s

end TimeUnit

/-- The names of the units that have no fixed length. -/
def calendarUnits : List (List Char) := ["month".toList, "year".toList]

/-- A unit word without one plural `s`. -/
def singular (word : List Char) : List Char :=
  if word.getLast? = some 's' then word.dropLast else word

/-! ## Errors -/

/-- Why a text is not an interval. -/
inductive Fault where
  /-- Nothing is left beside the keyword. -/
  | empty
  /-- The text does not consist of pairs. -/
  | malformed
  /-- A number has more digits than are converted. -/
  | tooManyDigits (count : Nat)
  /-- A unit without a fixed length, given in the singular. -/
  | calendarUnit (unit : List Char)
  /-- A word that names no unit. -/
  | unknownUnit (word : List Char)
  /-- A partial sum does not fit in 64 bits. -/
  | outOfRange
  deriving DecidableEq, Repr

/-! ## Pairs -/

/-- A number, a unit word, and the text after them. -/
structure Pair where
  /-- The number. -/
  amount : Numeral
  /-- The unit word, as it stands. -/
  word : List Char
  /-- What follows the word. -/
  rest : List Char

/-- Whether `c` is a small basic letter, the only kind that unit words have. -/
def isUnitLetter (c : Char) : Bool :=
  'a' ≤ c && c ≤ 'z'

/-- The pair at the front of a text: sign, digits, white space and letters, each as long as
possible and none but the sign empty. -/
def Pair.ofFront? (s : List Char) : Option Pair :=
  let (negative, s) := splitSign s
  let digits := s.takeWhile isDigit
  let s := s.dropWhile isDigit
  let blanks := s.takeWhile isBlank
  let s := s.dropWhile isBlank
  let word := s.takeWhile isUnitLetter
  if digits.isEmpty || blanks.isEmpty || word.isEmpty then none
  else some ⟨⟨negative, digits⟩, word, s.dropWhile isUnitLetter⟩

theorem length_splitSign_le (s : List Char) : (splitSign s).2.length ≤ s.length := by
  unfold splitSign
  split <;> simp

private theorem length_dropWhile_le {α : Type} (p : α → Bool) (s : List α) :
    (s.dropWhile p).length ≤ s.length :=
  (List.dropWhile_sublist p).length_le

private theorem length_dropWhile_lt {α : Type} {p : α → Bool} {s : List α}
    (h : (s.takeWhile p).isEmpty = false) : (s.dropWhile p).length < s.length := by
  cases s with
  | nil => simp at h
  | cons c s =>
    by_cases hc : p c = true
    · simpa [hc] using Nat.lt_succ_of_le (length_dropWhile_le p s)
    · simp [hc] at h

/-- A pair takes at least one character off the text. -/
theorem Pair.length_rest_lt {s : List Char} {p : Pair} (h : Pair.ofFront? s = some p) :
    p.rest.length < s.length := by
  simp only [Pair.ofFront?, Bool.or_eq_true] at h
  split at h
  · exact absurd h (by simp)
  · next hne =>
    simp only [not_or, Bool.not_eq_true] at hne
    obtain ⟨⟨hdigits, -⟩, -⟩ := hne
    injection h with h
    subst h
    calc _ ≤ _ := length_dropWhile_le _ _
      _ ≤ _ := length_dropWhile_le _ _
      _ < _ := length_dropWhile_lt hdigits
      _ ≤ _ := length_splitSign_le s

/-- The unit of a word, which may be in the plural. -/
def unitOfWord (word : List Char) : Except Fault TimeUnit :=
  let name := singular word
  if calendarUnits.contains name then .error (.calendarUnit name)
  else
    match TimeUnit.ofName? name with
    | some unit => .ok unit
    | none => .error (.unknownUnit word)

/-- The length of a pair in microseconds. -/
def Pair.micros (p : Pair) : Except Fault Int :=
  match p.amount.value with
  | .error (.tooManyDigits count) => .error (.tooManyDigits count)
  | .error .malformed => .error .malformed
  | .ok amount => (unitOfWord p.word).map fun unit ↦ amount * unit.micros

/-! ## Sums of pairs -/

/-- Whether a count of microseconds fits in 64 bits. -/
def inRange (n : Int) : Bool :=
  -(2 ^ 63) ≤ n && n ≤ 2 ^ 63 - 1

/-- Adds the pairs of a text to `total`. A pair must be followed by white space or by the end. -/
def microsOf (total : Int) (s : List Char) : Except Fault Int :=
  if s.isEmpty then .ok total
  else
    match _h : Pair.ofFront? s with
    | none => .error .malformed
    | some p =>
      match p.micros with
      | .error fault => .error fault
      | .ok micros =>
        if !inRange (total + micros) then .error .outOfRange
        else if p.rest.isEmpty then .ok (total + micros)
        else if (p.rest.takeWhile isBlank).isEmpty then .error .malformed
        else microsOf (total + micros) (p.rest.dropWhile isBlank)
termination_by s.length
decreasing_by
  exact Nat.lt_of_le_of_lt (length_dropWhile_le _ _) (Pair.length_rest_lt (by assumption))

/-- The keyword that may stand in front of the pairs. -/
def keyword : List Char := "interval".toList

/-- The pairs of an interval: its text in lower case, without the keyword and the white space
around it. -/
def body (raw : List Char) : List Char :=
  let s := lower (trim raw)
  if keyword.isPrefixOf s then trim (s.drop keyword.length) else s

/-- The length of an interval in milliseconds, rounded toward zero. -/
def millisOfText (raw : List Char) : Except Fault Int :=
  let s := body raw
  if s.isEmpty then .error .empty else (microsOf 0 s).map fun micros ↦ micros.tdiv 1000

/-- The message for a text that is not an interval. -/
def Fault.message (raw : String) : Fault → String
  | .empty => "Interval string cannot be empty: " ++ quote raw
  | .malformed => "Error parsing interval " ++ quote raw
  | .tooManyDigits count => Integer.tooManyDigitsMessage count
  | .calendarUnit unit =>
    "Error parsing interval " ++ quote raw ++ ": " ++ String.ofList unit ++
      "s are not supported, you may specify '365 days' for a year instead"
  | .unknownUnit word =>
    "Error parsing interval " ++ quote raw ++ ": unknown unit " ++ quote (String.ofList word)
  | .outOfRange => "Error parsing interval " ++ quote raw ++ ": interval is out of range"

end TableProperties.Interval
