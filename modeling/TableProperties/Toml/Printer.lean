import TableProperties.Text.Hex
import TableProperties.Text.Printable
import TableProperties.Text.Surrogate

/-!
# Writing TOML

A table of strings, one entry a line. Keys of basic letters, digits, hyphens and underscores are
written bare, so a key with a dot is quoted and stays one name. Strings stand between double quotes.
-/

namespace TableProperties.Toml

open Text

/-- One character of a string: what is not printable is escaped. -/
def writeChar (c : Char) : List Char :=
  if c = '"' ∨ c = '\\' then ['\\', c]
  else if c = '\n' then ['\\', 'n']
  else if c = '\r' then ['\\', 'r']
  else if c = '\t' then ['\\', 't']
  else if isPrintable c then [c]
  else if codePoint c ≤ 0xffff then '\\' :: 'u' :: fixedHex hexDigit 4 (codePoint c)
  else '\\' :: 'U' :: fixedHex hexDigit 8 (codePoint c)

/-- A string. -/
def writeString (s : List Char) : List Char :=
  '"' :: (s.flatMap writeChar ++ ['"'])

/-- The characters of bare keys. -/
def isBareChar (c : Char) : Bool :=
  c.isAlphanum || c == '_' || c == '-'

/-- Whether a key is written bare. A line feed at its end is not looked at. -/
def isBareKey (s : List Char) : Bool :=
  let s := if s.getLast? = some '\n' then s.dropLast else s
  !s.isEmpty && s.all isBareChar

/-- A key. -/
def writeKey (s : List Char) : List Char :=
  if isBareKey s then s else writeString s

/-- An entry of the table. -/
def writeEntry (key value : List Char) : List Char :=
  writeKey key ++ ' ' :: '=' :: ' ' :: (writeString value ++ ['\n'])

/-- The table of some entries. -/
def write (entries : List (List Char × List Char)) : List Char :=
  entries.flatMap fun (key, value) ↦ writeEntry key value

end TableProperties.Toml
