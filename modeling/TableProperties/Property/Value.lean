import TableProperties.ColumnMapping
import TableProperties.Interval

/-!
# Values of properties

A property is stored as text and read as a typed value. This file holds the values, the readers of
the kinds of text that properties use, and the reasons for which a reader rejects a text.

## Main definitions

* `Value`: what reading a property gives.
* `Rejection`: why a text is no value, with its message.
* `Reader`: a reader of raw values; the readers of this library are named after what they read.
-/

namespace TableProperties

/-- The typed value of a property. -/
inductive Value where
  /-- An optional property without a value. -/
  | absent
  /-- A truth value. -/
  | bool (b : Bool)
  /-- An integer; intervals are counted in milliseconds. -/
  | int (n : Int)
  /-- A column mapping mode. -/
  | mode (m : ColumnMapping)
  /-- A text that is taken as it is. -/
  | text (s : String)
  deriving DecidableEq, Repr

/-- Why a raw value is rejected. -/
inductive Rejection where
  /-- There is no text where one is required. -/
  | noText
  /-- The text is not an optional sign and digits. -/
  | notInteger (raw : String)
  /-- The text has more digits than are converted. -/
  | tooManyDigits (count : Nat)
  /-- The number does not fit in the width of the property. -/
  | outOfRange (raw : String)
  /-- The text is neither of the two truth values. -/
  | notBoolean (raw : String)
  /-- The text names no column mapping mode. -/
  | unknownMode (raw : String)
  /-- The text is no interval. -/
  | notInterval (raw : String) (fault : Interval.Fault)
  deriving DecidableEq, Repr

/-- The message of a rejection. -/
def Rejection.message : Rejection → String
  | .noText => "A text is required"
  | .notInteger raw => "Not an integer: " ++ Text.quote raw
  | .tooManyDigits count => Integer.tooManyDigitsMessage count
  | .outOfRange raw => "Integer out of range: " ++ raw
  | .notBoolean raw => "Not a boolean: " ++ Text.quote raw
  | .unknownMode raw =>
    "Invalid column mapping mode: " ++ raw ++ ", supported modes: " ++
      String.intercalate ", " (ColumnMapping.all.map ColumnMapping.text)
  | .notInterval raw fault => fault.message raw

/-! ## Reading text -/

/-- Reads an integer between two bounds. -/
def readBounded (least greatest : Int) (raw : String) : Except Rejection Int :=
  match Integer.Numeral.ofText? raw.toList with
  | none => .error (.notInteger raw)
  | some numeral =>
    match numeral.value with
    | .error (.tooManyDigits count) => .error (.tooManyDigits count)
    | .error .malformed => .error (.notInteger raw)
    | .ok n => if least ≤ n ∧ n ≤ greatest then .ok n else .error (.outOfRange raw)

/-- Reads an integer of 32 bits. -/
def readInt32 : String → Except Rejection Int :=
  readBounded (-(2 ^ 31)) (2 ^ 31 - 1)

/-- Reads an integer of 64 bits. -/
def readInt64 : String → Except Rejection Int :=
  readBounded (-(2 ^ 63)) (2 ^ 63 - 1)

/-- Reads a truth value, ignoring case. -/
def readBool (raw : String) : Except Rejection Bool :=
  let word := Text.lowercase raw
  if word = "true" then .ok true
  else if word = "false" then .ok false
  else .error (.notBoolean raw)

/-- Reads an interval as milliseconds. -/
def readInterval (raw : String) : Except Rejection Int :=
  (Interval.millisOfText raw.toList).mapError (.notInterval raw)

/-- Reads a column mapping mode. -/
def readMode (raw : String) : Except Rejection ColumnMapping :=
  match ColumnMapping.ofText? raw with
  | some mode => .ok mode
  | none => .error (.unknownMode raw)

/-! ## Reading raw values -/

/-- Turns a raw value, a text or none, into a typed one. -/
abbrev Reader := Option String → Except Rejection Value

namespace Reader

/-- A reader that requires a text. -/
def ofText (read : String → Except Rejection Value) : Reader
  | none => .error .noText
  | some raw => read raw

/-- Integers of 32 bits. -/
def int32 : Reader := ofText fun raw ↦ (readInt32 raw).map .int

/-- Integers of 64 bits. -/
def int64 : Reader := ofText fun raw ↦ (readInt64 raw).map .int

/-- Integers of 64 bits that may be absent. -/
def optionalInt64 : Reader
  | none => .ok .absent
  | some raw => (readInt64 raw).map .int

/-- Truth values. -/
def bool : Reader := ofText fun raw ↦ (readBool raw).map .bool

/-- Intervals. -/
def interval : Reader := ofText fun raw ↦ (readInterval raw).map .int

/-- Column mapping modes. -/
def mode : Reader := ofText fun raw ↦ (readMode raw).map .mode

/-- Any text. -/
def text : Reader := ofText fun raw ↦ .ok (.text raw)

end Reader

end TableProperties
