import TableProperties.Text.Hex
import TableProperties.Text.Surrogate
import TableProperties.Yaml.Style

/-!
# Writing YAML

The block mapping of some entries, one a line, keys and values in the style that fits. A value that
is longer than a line is wrapped at spaces, and between double quotes also behind escapes. A long
key, an empty one and one of several lines has a mark in front and is wrapped like a value.

## Main definitions

* `writeScalar`: a text in its style.
* `writeEntry`, `write`.
-/

namespace TableProperties.Yaml

open Text

/-- The column behind which a line is wrapped. -/
def lineWidth : Nat := 80

/-- A line end and the indentation of the lines that go on. -/
def continuation : List Char := ['\n', ' ', ' ']

/-- The column at which a continued line starts. -/
def continuationColumn : Nat := 2

/-! ## Words -/

/-- Writes a text without escapes from a column on; `wraps` tells whether it may be wrapped. Only
lone spaces inside the text are replaced by line ends. Line ends of the text are doubled at the
first of several, and quotes are doubled if they enclose the text. -/
def writeWords (wraps quoted : Bool) (column : Nat) (before : Option Char) :
    List Char → List Char
  | [] => []
  | c :: rest =>
    if c = ' ' then
      let isLone := before.isSome && before != some ' ' && !rest.isEmpty && rest.head? != some ' '
      if wraps && isLone && lineWidth < column then
        continuation ++ writeWords wraps quoted continuationColumn (some c) rest
      else c :: writeWords wraps quoted (column + 1) (some c) rest
    else if c = '\n' then
      (if before = some '\n' then ['\n'] else ['\n', '\n']) ++
        (if rest.head? = some '\n' then [] else [' ', ' ']) ++
        writeWords wraps quoted continuationColumn (some c) rest
    else if c = '\'' ∧ quoted then
      c :: c :: writeWords wraps quoted (column + 2) (some c) rest
    else c :: writeWords wraps quoted (column + 1) (some c) rest

/-! ## Escapes -/

/-- The letter that stands for a character after a backslash. -/
def escapeLetter? : Char → Option Char
  | '\x00' => some '0'
  | '\x07' => some 'a'
  | '\x08' => some 'b'
  | '\t' => some 't'
  | '\n' => some 'n'
  | '\x0b' => some 'v'
  | '\x0c' => some 'f'
  | '\r' => some 'r'
  | '\x1b' => some 'e'
  | '"' => some '"'
  | '\\' => some '\\'
  | '\u0085' => some 'N'
  | '\u00a0' => some '_'
  | '\u2028' => some 'L'
  | '\u2029' => some 'P'
  | _ => none

/-- The escape of a character, unless it is written as it is. -/
def escape? (c : Char) : Option (List Char) :=
  match escapeLetter? c with
  | some letter => some ['\\', letter]
  | none =>
    let n := codePoint c
    if isAsciiText c then none
    else if n ≤ 0xff then some ('\\' :: 'x' :: fixedHex hexDigitUpper 2 n)
    else if n ≤ 0xffff then some ('\\' :: 'u' :: fixedHex hexDigitUpper 4 n)
    else some ('\\' :: 'U' :: fixedHex hexDigitUpper 8 n)

/-- Writes a text with escapes from a column on. It is wrapped in front of a space, which is then
escaped, and between an escape and what follows, but neither before the second character nor behind
the last but one. -/
def writeEscaped (wraps : Bool) (column : Nat) (isFirst afterEscape : Bool) :
    List Char → List Char
  | [] => []
  | c :: rest =>
    let mayWrap := wraps && !isFirst && !rest.isEmpty
    match escape? c with
    | some e =>
      let column := column + e.length
      if mayWrap && lineWidth + 1 < column then
        if rest.head? = some ' ' then
          e ++ '\\' :: continuation ++
            '\\' :: writeEscaped wraps (continuationColumn + 1) false true rest
        else e ++ '\\' :: continuation ++ writeEscaped wraps continuationColumn false true rest
      else e ++ writeEscaped wraps column false true rest
    | none =>
      if mayWrap && (c == ' ' || afterEscape) && lineWidth < column then
        if c = ' ' then
          '\\' :: continuation ++
            '\\' :: c :: writeEscaped wraps (continuationColumn + 2) false false rest
        else
          '\\' :: continuation ++ c :: writeEscaped wraps (continuationColumn + 1) false false rest
      else c :: writeEscaped wraps (column + 1) false false rest

/-! ## Scalars and entries -/

/-- A text in its style from a column on; `wraps` tells whether it may be wrapped. -/
def writeScalar (wraps : Bool) (column : Nat) (s : List Char) : List Char :=
  match Style.ofText s with
  | .plain => writeWords wraps false column none s
  | .single => '\'' :: (writeWords wraps true (column + 1) none s ++ ['\''])
  | .double => '"' :: (writeEscaped wraps (column + 1) true false s ++ ['"'])

/-- The length from which on a key needs a mark in front. -/
def longKey : Nat := 123

/-- Whether a key is written without a mark in front. -/
def isSimpleKey (s : List Char) : Bool :=
  !s.isEmpty && s.length < longKey && !isMultiline s

/-- An entry of a mapping. -/
def writeEntry (key value : List Char) : List Char :=
  if isSimpleKey key then
    let key := writeScalar false 0 key
    key ++ ':' :: ' ' :: (writeScalar true (key.length + 2) value ++ ['\n'])
  else
    '?' :: ' ' :: (writeScalar true 2 key ++
      '\n' :: ':' :: ' ' :: (writeScalar true 2 value ++ ['\n']))

/-- The mapping of some entries. -/
def write (entries : List (List Char × List Char)) : List Char :=
  if entries.isEmpty then "\x7b\x7d\n".toList
  else entries.flatMap fun (key, value) ↦ writeEntry key value

end TableProperties.Yaml
