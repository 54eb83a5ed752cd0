import TableProperties.Text.Hex
import TableProperties.Text.Printable
import TableProperties.Text.Surrogate

/-!
# Quoted text

The form in which messages show a text: between apostrophes, or between quotation marks when the
text holds an apostrophe and no quotation mark. The quote in use, the backslash and three control
characters are written with a backslash; any other character that is not printable is written by
its code point, with two, four or eight hexadecimal digits.
-/

namespace TableProperties.Text

/-- The quote around a text: an apostrophe, unless that would have to be escaped and a quotation
mark would not. -/
def quoteFor (s : List Char) : Char :=
  if s.contains '\'' && !s.contains '"' then '"' else '\''

/-- A code point as `\xNN`, `\uNNNN` or `\UNNNNNNNN`, whichever is the shortest. -/
def codePointEscape (n : Nat) : List Char :=
  if n < 0x100 then '\\' :: 'x' :: fixedHex hexDigit 2 n
  else if n < 0x10000 then '\\' :: 'u' :: fixedHex hexDigit 4 n
  else '\\' :: 'U' :: fixedHex hexDigit 8 n

/-- One character between quotes of the given kind. -/
def quoteChar (quote c : Char) : List Char :=
  if c = quote ∨ c = '\\' then ['\\', c]
  else if c = '\t' then ['\\', 't']
  else if c = '\n' then ['\\', 'n']
  else if c = '\r' then ['\\', 'r']
  else if isPrintable c then [c]
  else codePointEscape (codePoint c)

/-- A text between quotes. -/
def quoted (s : List Char) : List Char :=
  let quote := quoteFor s
  quote :: (s.flatMap (quoteChar quote) ++ [quote])

/-- A string between quotes. -/
def quote (s : String) : String :=
  String.ofList (quoted s.toList)

end TableProperties.Text
