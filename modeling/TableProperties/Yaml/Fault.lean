import TableProperties.Document.Basic

/-!
# Faults of YAML texts

Why a YAML text has no document. Most texts fail because they do not follow the grammar, or because
they use a tag or an alias that means nothing. The others are well formed but hold a scalar whose
text does not fit its type.
-/

namespace TableProperties.Yaml

/-- Why a text has no document. -/
inductive Fault where
  /-- The text does not follow the grammar, or has a tag, alias or key that cannot be used. -/
  | malformed
  /-- An escape names a number beyond the last code point. -/
  | codePoint (n : Nat)
  /-- A text is no integer in the given base. -/
  | notInteger (base : Nat) (text : List Char)
  /-- An integer has more digits than are converted. -/
  | tooManyDigits (count : Nat)
  /-- A text is no floating point number. -/
  | notFloat (text : List Char)
  /-- A text marked as a number is empty, its sign apart. -/
  | emptyNumber
  /-- A text marked as a truth value is none. -/
  | notBoolean (text : List Char)
  /-- A text marked as a timestamp is none. -/
  | notTimestamp
  /-- A text marked as a timestamp is the value of a mapping. -/
  | timestampMapping
  /-- A number in base sixty has more parts than floating point numbers reach. -/
  | powerTooLarge
  /-- A mapping whose value stands for it is its own value. -/
  | endless
  /-- A timestamp has a part that is out of range. -/
  | calendar (fault : CalendarFault)
  deriving DecidableEq, Repr

/-- The message of a fault. -/
def Fault.message : Fault → String
  | .malformed => grammarMessage
  | .codePoint n =>
    if n < 2 ^ 31 then "chr() arg not in range(0x110000)"
    else Integer.tooWideMessage
  | .notInteger base text =>
    "invalid literal for int() with base " ++ Integer.decimalText base ++ ": " ++
      String.ofList ((Text.quoted text).take 200)
  | .tooManyDigits count => Integer.tooManyDigitsMessage count
  | .notFloat text =>
    "could not convert string to float: " ++ String.ofList (Text.quoted text)
  | .emptyNumber => "string index out of range"
  | .notBoolean text => String.ofList (Text.quoted text)
  | .notTimestamp => "'NoneType' object has no attribute 'groupdict'"
  | .timestampMapping => "expected string or bytes-like object, got 'list'"
  | .powerTooLarge => "int too large to convert to float"
  | .endless => "maximum recursion depth exceeded"
  | .calendar fault => fault.message

end TableProperties.Yaml
