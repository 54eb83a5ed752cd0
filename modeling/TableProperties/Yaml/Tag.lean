import TableProperties.Yaml.Text.Class

/-!
# Tags

The type of a node, as it is written or as it follows from the text of a plain scalar. A plain
scalar is a truth value, a number, a timestamp or nothing at all if its text has one of the forms of
that type, and a text otherwise.

## Main definitions

* `Tag` and `Tag.ofText`.
* `Tag.ofPlain`: the type of a plain scalar.
-/

namespace TableProperties.Yaml

/-- The type of a node. -/
inductive Tag where
  | null
  | bool
  | int
  | float
  | binary
  | timestamp
  /-- The key under which other mappings are merged into a mapping. -/
  | merge
  /-- The key whose value stands for the whole mapping. -/
  | value
  | str
  | seq
  | map
  | set
  | omap
  | pairs
  /-- A type that is not known. -/
  | other
  deriving DecidableEq, Repr

/-- The start that the tags of all known types share. -/
def coreTagStart : List Char := "tag:yaml.org,2002:".toList

/-- The tags of all known types, without the start they share. -/
def coreTags : List (List Char × Tag) := [
  ("null".toList, .null), ("bool".toList, .bool), ("int".toList, .int), ("float".toList, .float),
  ("binary".toList, .binary), ("timestamp".toList, .timestamp), ("merge".toList, .merge),
  ("value".toList, .value), ("str".toList, .str), ("seq".toList, .seq), ("map".toList, .map),
  ("set".toList, .set), ("omap".toList, .omap), ("pairs".toList, .pairs)]

/-- The type that a tag names. -/
def Tag.ofText (s : List Char) : Tag :=
  if coreTagStart.isPrefixOf s then (coreTags.lookup (s.drop coreTagStart.length)).getD .other
  else .other

/-- Whether a node of this type has parts. -/
def Tag.isCollection : Tag → Bool
  | .seq | .map | .set | .omap | .pairs => true
  | _ => false

/-! ## The forms of plain scalars -/

/-- Drops a sign. -/
def dropSign : List Char → List Char
  | '-' :: rest => rest
  | '+' :: rest => rest
  | s => s

/-- Digits and underscores. -/
def isDigitOrUnderscore (c : Char) : Bool :=
  c.isDigit || c == '_'

/-- A digit, then digits and underscores. -/
def isDigitRun : List Char → Bool
  | c :: rest => c.isDigit && rest.all isDigitOrUnderscore
  | [] => false

/-- A part of a number in base sixty: one digit, or two of which the first is below six. -/
def isSixtieth : List Char → Bool
  | [a] => a.isDigit
  | [a, b] => '0' ≤ a && a ≤ '5' && b.isDigit
  | _ => false

/-- Whether a text consists of a first part and, after colons, one or more parts in base sixty. -/
def isBaseSixty (first : List Char → Bool) (s : List Char) : Bool :=
  match s.splitOn ':' with
  | whole :: part :: parts => first whole && (part :: parts).all isSixtieth
  | _ => false

/-- The forms of truth values: a few words, in small letters, in capitals or with one capital. -/
def isBoolForm (s : List Char) : Bool :=
  ["yes", "Yes", "YES", "no", "No", "NO", "true", "True", "TRUE", "false", "False", "FALSE",
    "on", "On", "ON", "off", "Off", "OFF"].any fun w ↦ w.toList == s

/-- The forms of nothing. -/
def isNullForm (s : List Char) : Bool :=
  ["~", "null", "Null", "NULL", ""].any fun w ↦ w.toList == s

/-- The forms of integers: in base two, eight, ten and sixteen, and in base sixty. -/
def isIntForm (s : List Char) : Bool :=
  let s := dropSign s
  let decimal (s : List Char) : Bool := isDigitRun s && s.head? != some '0'
  match s with
  | ['0'] => true
  | '0' :: 'b' :: rest => !rest.isEmpty && rest.all fun c ↦ c == '0' || c == '1' || c == '_'
  | '0' :: 'x' :: rest =>
    !rest.isEmpty && rest.all fun c ↦
      c.isDigit || ('a' ≤ c && c ≤ 'f') || ('A' ≤ c && c ≤ 'F') || c == '_'
  | '0' :: rest => rest.all fun c ↦ ('0' ≤ c && c ≤ '7') || c == '_'
  | s => decimal s || isBaseSixty decimal s

/-- A power of ten, whose sign is required, or nothing. -/
def isPowerForm : List Char → Bool
  | [] => true
  | e :: sign :: rest =>
    (e == 'e' || e == 'E') && (sign == '-' || sign == '+') && !rest.isEmpty && rest.all Char.isDigit
  | _ => false

/-- The forms of floating point numbers: with a point, in base sixty with a point, and the words for
infinity and for no number. -/
def isFloatForm (s : List Char) : Bool :=
  let unsigned := dropSign s
  let whole := unsigned.takeWhile (· != '.')
  match unsigned.dropWhile (· != '.') with
  | '.' :: rest =>
    let part := rest.takeWhile isDigitOrUnderscore
    let power := rest.dropWhile isDigitOrUnderscore
    if whole.isEmpty then
      ["inf", "Inf", "INF"].any (fun w ↦ w.toList == rest) ||
        (unsigned == s &&
          (["nan", "NaN", "NAN"].any (fun w ↦ w.toList == rest) ||
            (isDigitRun part && isPowerForm power)))
    else
      (isDigitRun whole && isPowerForm power) || (isBaseSixty isDigitRun whole && power.isEmpty)
  | _ => false

/-! ## Timestamps -/

/-- The parts of a timestamp, as they are written. -/
structure TimestampForm where
  year : List Char
  month : List Char
  day : List Char
  /-- Hour, minute and second. -/
  time : Option (List Char × List Char × List Char)
  fraction : List Char
  /-- Whether the distance from universal time is negative, and its hours and minutes. -/
  offset : Option (Bool × List Char × List Char)
  deriving DecidableEq, Repr

/-- Takes between `least` and `greatest` digits off a text, as many as there are. -/
def takeDigits? (least greatest : Nat) (s : List Char) : Option (List Char × List Char) :=
  let digits := (s.take greatest).takeWhile Char.isDigit
  if digits.length < least then none else some (digits, s.drop digits.length)

/-- Takes a given character off a text. -/
def takeChar? (c : Char) : List Char → Option (List Char)
  | d :: rest => if d = c then some rest else none
  | [] => none

/-- The distance from universal time at the end of a timestamp. -/
def takeOffset? (s : List Char) : Option (Option (Bool × List Char × List Char)) :=
  match s.dropWhile isGap with
  | [] => if s.isEmpty then some none else none
  | ['Z'] => some (some (false, [], []))
  | sign :: rest =>
    if sign = '-' ∨ sign = '+' then
      match takeDigits? 1 2 rest with
      | none => none
      | some (hours, []) => some (some (sign == '-', hours, []))
      | some (hours, rest) =>
        match (takeChar? ':' rest).bind (takeDigits? 2 2) with
        | some (minutes, []) => some (some (sign == '-', hours, minutes))
        | _ => none
    else none

/-- The time of day of a timestamp after the separator in front of it, and what follows. -/
def takeTime? (s : List Char) :
    Option ((List Char × List Char × List Char) × List Char × List Char) := do
  let (hour, s) ← takeDigits? 1 2 s
  let (minute, s) ← (takeChar? ':' s).bind (takeDigits? 2 2)
  let (second, s) ← (takeChar? ':' s).bind (takeDigits? 2 2)
  match s with
  | '.' :: s => return ((hour, minute, second), s.takeWhile Char.isDigit, s.dropWhile Char.isDigit)
  | s => return ((hour, minute, second), [], s)

/-- Drops the separator between the date and the time of a timestamp. -/
def dropTimeMark? : List Char → Option (List Char)
  | 'T' :: rest => some rest
  | 't' :: rest => some rest
  | c :: rest => if isGap c then some (rest.dropWhile isGap) else none
  | [] => none

/-- The parts of a timestamp. -/
def TimestampForm.ofText? (s : List Char) : Option TimestampForm := do
  let (year, s) ← takeDigits? 4 4 s
  let (month, s) ← (takeChar? '-' s).bind (takeDigits? 1 2)
  let (day, s) ← (takeChar? '-' s).bind (takeDigits? 1 2)
  if s.isEmpty then return ⟨year, month, day, none, [], none⟩
  let (time, fraction, s) ← (dropTimeMark? s).bind takeTime?
  let offset ← takeOffset? s
  return ⟨year, month, day, some time, fraction, offset⟩

/-- The forms of timestamps: without a time, month and day have two digits. -/
def isTimestampForm (s : List Char) : Bool :=
  match TimestampForm.ofText? s with
  | none => false
  | some t => t.time.isSome || (t.month.length == 2 && t.day.length == 2)

/-! ## Plain scalars -/

/-- A text without a line feed at its very end, which the forms do not count. -/
def dropFinalBreak (s : List Char) : List Char :=
  if s.getLast? = some '\n' then s.dropLast else s

/-- The type of a plain scalar. -/
def Tag.ofPlain (s : List Char) : Tag :=
  if s = ['\n'] then .str
  else
    let s := dropFinalBreak s
    if isBoolForm s then .bool
    else if isFloatForm s then .float
    else if isIntForm s then .int
    else if s = ['<', '<'] then .merge
    else if isNullForm s then .null
    else if isTimestampForm s then .timestamp
    else if s = ['='] then .value
    else .str

end TableProperties.Yaml
