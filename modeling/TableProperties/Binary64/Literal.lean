import TableProperties.Binary64.Basic
import TableProperties.Integer
import TableProperties.Text.Lower

/-!
# Floating point numbers in text

The wide form in which data files write floating point numbers: digits of any script with an
optional point and an optional power of ten, single underscores between digits, a sign, and the
words for infinity and for no number. White space around the number does not count.
-/

namespace TableProperties.Binary64

open Text Integer

/-- Turns the digits of every script into basic digits. -/
def basicDigits (s : List Char) : List Char :=
  s.map fun c ↦
    match digitValue? c with
    | some n => Char.ofNat (48 + n)
    | none => c

/-- Drops single underscores between digits; any other underscore spoils the text. -/
def dropUnderscores? (afterDigit : Bool) : List Char → Option (List Char)
  | [] => some []
  | '_' :: c :: rest =>
    if afterDigit && c.isDigit then (dropUnderscores? true rest).map (c :: ·) else none
  | '_' :: [] => none
  | c :: rest => (dropUnderscores? c.isDigit rest).map (c :: ·)

/-- The power of ten at the end of a number, which may be missing. -/
def power? : List Char → Option Int
  | [] => some 0
  | c :: rest =>
    if c = 'e' ∨ c = 'E' then
      let (negative, digits) := splitSign rest
      if !digits.isEmpty && digits.all Char.isDigit then
        some (withSign negative (decimalValue digits))
      else none
    else none

/-- An unsigned number in basic digits. -/
def ofUnsigned? (negative : Bool) (s : List Char) : Option Binary64 :=
  let whole := s.takeWhile Char.isDigit
  let rest := s.dropWhile Char.isDigit
  let (part, rest) :=
    match rest with
    | '.' :: rest => (rest.takeWhile Char.isDigit, rest.dropWhile Char.isDigit)
    | rest => ([], rest)
  if whole.isEmpty && part.isEmpty then none
  else (power? rest).map fun power ↦
    ofDecimal negative (decimalValue (whole ++ part)) (power - part.length)

/-- The number that a text denotes. -/
def ofLiteral? (s : List Char) : Option Binary64 :=
  let (negative, body) := splitSign (trimNumber (basicDigits s))
  let word := body.map Char.toLower
  if word = "inf".toList ∨ word = "infinity".toList then some (.infinite negative)
  else if word = "nan".toList then some .nan
  else (dropUnderscores? false body).bind (ofUnsigned? negative)

end TableProperties.Binary64
