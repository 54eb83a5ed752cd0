import TableProperties.Document.Basic

/-!
# Faults of TOML texts

Why a TOML text is not read. Most texts fail because they do not follow the grammar. The others
break off where a character is missing, or use a value as if it were a table or an array.

## Main definitions

* `ValueType`: the types of values, by the names that messages have for them.
* `Fault` and `Fault.message`.
-/

namespace TableProperties.Toml

/-- The type of a value. -/
inductive ValueType where
  | bool | int | float | str | date | time | dateTime | array | table
  /-- A table that is written between braces. -/
  | inlineTable
  deriving DecidableEq, Repr

/-- The name of a type. -/
def ValueType.name : ValueType → String
  | bool => "bool"
  | int => "int"
  | float => "float"
  | str => "str"
  | date => "datetime.date"
  | time => "datetime.time"
  | dateTime => "datetime.datetime"
  | array => "list"
  | table => "dict"
  | inlineTable => "DynamicInlineTableDict"

/-- Why a TOML text is not read. -/
inductive Fault where
  /-- The text does not follow the grammar, or a value is out of range. -/
  | malformed
  /-- An escape names a number that is far beyond the last code point. -/
  | codePoint (n : Nat)
  /-- A text is over where a character of it is needed. -/
  | textEnds
  /-- A list is over where an item of it is needed. -/
  | listEnds
  /-- A header adds a table to a value that is no array. -/
  | notArray (type : ValueType)
  /-- A header or key leads into a value that has no parts. -/
  | noParts (type : ValueType)
  /-- A name is looked for in a value that has no parts. -/
  | noNames (type : ValueType)
  /-- A name would be put into a string. -/
  | putIntoString
  /-- A string is taken for a table. -/
  | nameOfString
  /-- An array is taken for a table. -/
  | nameOfArray
  /-- A value that goes on on the next line has an empty key. -/
  | namelessStart
  /-- A fraction of a second has too many digits. -/
  | fractionTooLong
  /-- A table that is made twice holds an integer with too many digits. -/
  | tooLong
  deriving DecidableEq, Repr

/-- The message of a fault. -/
def Fault.message : Fault → String
  | malformed => grammarMessage
  | codePoint _ => Integer.tooWideMessage
  | textEnds => "string index out of range"
  | listEnds => "list index out of range"
  | notArray type => "'" ++ type.name ++ "' object has no attribute 'append'"
  | noParts type => "'" ++ type.name ++ "' object is not subscriptable"
  | noNames type => "argument of type '" ++ type.name ++ "' is not iterable"
  | putIntoString => "'str' object does not support item assignment"
  | nameOfString => "string indices must be integers, not 'str'"
  | nameOfArray => "list indices must be integers or slices, not str"
  | namelessStart => "cannot access local variable 'value' where it is not associated with a value"
  | fractionTooLong => "int too large to convert to float"
  | tooLong => Integer.tooLongToWriteMessage

end TableProperties.Toml
