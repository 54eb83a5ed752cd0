import TableProperties.Binary64.Literal
import TableProperties.Document.Scalar
import TableProperties.Text.Base64
import TableProperties.Yaml.Fault
import TableProperties.Yaml.Tag

/-!
# The values of scalars

What the text of a scalar means under its type. Plain scalars have the form of their type, but a
type that is written out may stand before any text, so every reader here can fail.

## Main definitions

* `Tag.scalar`: the value of a text under a type.
* `readInt`, `readFloat`, `readTimestamp`: the types whose texts have several forms.
-/

namespace TableProperties.Yaml

open Integer (readLiteral splitSign withSign)

/-- The words for truth values, in small letters. -/
def boolWords : List (List Char × Bool) := [
  ("yes".toList, true), ("no".toList, false), ("true".toList, true), ("false".toList, false),
  ("on".toList, true), ("off".toList, false)]

/-- A truth value, in letters of any case. -/
def readBool (s : List Char) : Except Fault Bool :=
  match boolWords.lookup (Text.lower s) with
  | some b => .ok b
  | none => .error (.notBoolean (Text.lower s))

/-- Drops the underscores of a number. -/
def dropUnderscores (s : List Char) : List Char :=
  s.filter (· != '_')

/-! ## Integers -/

/-- An integer in one base. -/
def readDigits (base : Nat) (s : List Char) : Except Fault Int :=
  match readLiteral base s with
  | .ok n => .ok n
  | .error .malformed => .error (.notInteger base s)
  | .error (.tooManyDigits count) => .error (.tooManyDigits count)

/-- An integer without its sign: a zero in front means base two, sixteen or eight, and colons mean
base sixty. -/
def readUnsignedInt (s : List Char) : Except Fault Int :=
  match s with
  | [] => .error .emptyNumber
  | ['0'] => .ok 0
  | '0' :: 'b' :: rest => readDigits 2 rest
  | '0' :: 'x' :: rest => readDigits 16 rest
  | '0' :: _ => readDigits 8 s
  | _ =>
    if ':' ∈ s then
      ((s.splitOn ':').mapM (readDigits 10)).map fun parts ↦ parts.foldl (fun n p ↦ 60 * n + p) 0
    else readDigits 10 s

/-- An integer. -/
def readInt (s : List Char) : Except Fault Int :=
  let (negative, body) := splitSign (dropUnderscores s)
  (readUnsignedInt body).map fun n ↦ if negative then -n else n

/-! ## Floating point numbers -/

/-- A floating point number in base ten. -/
def readDecimal (s : List Char) : Except Fault Binary64 :=
  match Binary64.ofLiteral? s with
  | some x => .ok x
  | none => .error (.notFloat s)

/-- The sum of the parts of a number in base sixty, the last part first, from the given power of
sixty on. The powers have to be floating point numbers. -/
def sumSixtieths (sum : Binary64) (power : Nat) : List Binary64 → Except Fault Binary64
  | [] => .ok sum
  | x :: rest =>
    match Binary64.ofInt power with
    | .finite negative m e =>
      sumSixtieths (sum.add (x.mul (.finite negative m e))) (60 * power) rest
    | _ => .error .powerTooLarge

/-- A floating point number without its sign. -/
def readUnsignedFloat (s : List Char) : Except Fault Binary64 :=
  if s = ".inf".toList then .ok (.infinite false)
  else if s = ".nan".toList then .ok .nan
  else if ':' ∈ s then
    match (s.splitOn ':').mapM readDecimal with
    | .error fault => .error fault
    | .ok parts => sumSixtieths (.zero false) 1 parts.reverse
  else readDecimal s

/-- A floating point number. -/
def readFloat (s : List Char) : Except Fault Binary64 :=
  match Text.lower (dropUnderscores s) with
  | [] => .error .emptyNumber
  | s =>
    let (negative, body) := splitSign s
    (readUnsignedFloat body).map fun x ↦ if negative then x.neg else x

/-! ## Timestamps -/

/-- The microseconds of a fraction of a second, of which six digits count. -/
def microseconds (fraction : List Char) : Nat :=
  let digits := fraction.take 6
  Text.decimalValue (digits ++ List.replicate (6 - digits.length) '0')

/-- A distance from universal time in minutes. -/
def readOffset (sign : Bool) (hours minutes : List Char) : Except CalendarFault Int :=
  checkOffset (withSign sign (Text.decimalValue hours * 60 + Text.decimalValue minutes))

/-- The date, or date and time, of a timestamp. -/
def TimestampForm.scalar (t : TimestampForm) : Except CalendarFault Scalar :=
  let date := Date.of (Text.decimalValue t.year) (Text.decimalValue t.month)
    (Text.decimalValue t.day)
  match t.time with
  | none => date.map .date
  | some (hour, minute, second) => do
    let offset ← t.offset.mapM fun (sign, hours, minutes) ↦ readOffset sign hours minutes
    let date ← date
    let time ← Time.of (Text.decimalValue hour) (Text.decimalValue minute)
      (Text.decimalValue second) (microseconds t.fraction)
    return .dateTime ⟨date, time, offset⟩

/-- A timestamp. -/
def readTimestamp (s : List Char) : Except Fault Scalar :=
  match TimestampForm.ofText? (dropFinalBreak s) with
  | none => .error .notTimestamp
  | some t => t.scalar.mapError .calendar

/-! ## All types -/

/-- The bytes of a text in base 64. -/
def readBinary (s : List Char) : Except Fault (List UInt8) :=
  if s.all fun c ↦ c.toNat < 0x80 then
    match Text.decodeBase64? s with
    | some bytes => .ok bytes
    | none => .error .malformed
  else .error .malformed

/-- The value of a text under a type. Types of collections and unknown types have none. -/
def Tag.scalar (tag : Tag) (s : List Char) : Except Fault Scalar :=
  match tag with
  | .null => .ok .null
  | .bool => (readBool s).map .bool
  | .int => (readInt s).map .int
  | .float => (readFloat s).map .float
  | .binary => (readBinary s).map .bytes
  | .timestamp => readTimestamp s
  | .str => .ok (.text (String.ofList s))
  | _ => .error .malformed

end TableProperties.Yaml
