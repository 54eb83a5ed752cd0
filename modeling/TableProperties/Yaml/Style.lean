import TableProperties.Yaml.Tag

/-!
# Styles of scalars

How a text is written so that it reads as that text: plain if its words and marks allow it, else
between single quotes, and between double quotes if it has characters or white space that need
escapes. Texts of more than one line are never plain.

## Main definitions

* `Style.ofText`.
* `isPlainText`, `isSingleText`: the texts that can be written in the first two styles.
-/

namespace TableProperties.Yaml

/-- How a scalar is written. -/
inductive Style where
  | plain
  | single
  | double
  deriving DecidableEq, Repr

/-- The printable characters of ASCII. -/
def isAsciiText (c : Char) : Bool :=
  0x20 ≤ c.toNat && c.toNat ≤ 0x7e

/-- Whether a text has a character that must be escaped. -/
def hasSpecial (s : List Char) : Bool :=
  s.any fun c ↦ !isAsciiText c && c != '\n'

/-- The characters that end a line inside a text. -/
def endsLine (c : Char) : Bool :=
  isBreak c && c != '\r'

/-- Whether a text has more than one line. -/
def isMultiline (s : List Char) : Bool :=
  s.any endsLine

/-- Whether two characters in a row have given properties. -/
def hasPair (p q : Char → Bool) : List Char → Bool
  | a :: b :: rest => (p a && q b) || hasPair p q (b :: rest)
  | _ => false

/-- Whether white space stands at one of the ends of a text. -/
def hasOuterSpace (s : List Char) : Bool :=
  let isSpace (c : Char) : Bool := c == ' ' || endsLine c
  (s.head?.map isSpace).getD false || (s.getLast?.map isSpace).getD false

/-- Whether a space stands next to a line end, on either side. -/
def hasSpaceAtBreak (s : List Char) : Bool :=
  hasPair (· == ' ') endsLine s || hasPair endsLine (· == ' ') s

/-- Whether a colon ends a word or a number sign starts one, after the first character. -/
def hasInnerMark : List Char → Bool
  | a :: b :: rest =>
    (b == ':' && endsOr (· == ' ') rest) || (b == '#' && a == ' ') || hasInnerMark (b :: rest)
  | _ => false

/-- Whether the first character of a text means something else than itself. -/
def startsMark : List Char → Bool
  | [] => false
  | c :: rest =>
    "#,[]\x7b\x7d&*!|>'\"%@\x60".toList.contains c ||
      ((c == '?' || c == ':' || c == '-') && endsOr (· == ' ') rest)

/-- Whether a text starts like the marker of a document. -/
def startsMarker (s : List Char) : Bool :=
  "---".toList.isPrefixOf s || "...".toList.isPrefixOf s

/-- The texts that can be written plain and then read as a text. -/
def isPlainText (s : List Char) : Bool :=
  !hasSpecial s && !isMultiline s && !hasOuterSpace s && !startsMarker s && !startsMark s &&
    !hasInnerMark s && Tag.ofPlain s == .str

/-- The texts that can be written between single quotes. -/
def isSingleText (s : List Char) : Bool :=
  !hasSpecial s && !hasSpaceAtBreak s

/-- The style in which a text is written. -/
def Style.ofText (s : List Char) : Style :=
  if isPlainText s then .plain else if isSingleText s then .single else .double

end TableProperties.Yaml
