import TableProperties.Text.Utf8

/-!
# Character classes of YAML

The classes of characters by which tokens are told apart. Line ends are expected in their unified
form, the line feed; the next-line control and the line and paragraph separators also end a line.
Where the end of the text counts as a character of a class, the class is asked about what is left of
the text.
-/

namespace TableProperties.Yaml

/-- The characters that may occur in a text at all. -/
def isAllowed (c : Char) : Bool :=
  let n := c.toNat
  n == 0x09 || n == 0x0a || n == 0x0d || (0x20 ≤ n && n ≤ 0x7e) || n == 0x85 ||
    (0xa0 ≤ n && n ≤ 0xfffd) || 0x10000 ≤ n

/-- The characters that end a line. -/
def isBreak (c : Char) : Bool :=
  c == '\n' || c == '\r' || c == '\u0085' || c == '\u2028' || c == '\u2029'

/-- What a line end stands for in a scalar: the two separators stand for themselves, any other
line end for a line feed. -/
def unifiedBreak (c : Char) : Char :=
  if c = '\u2028' ∨ c = '\u2029' then c else '\n'

/-- Spaces and tabulators. -/
def isGap (c : Char) : Bool :=
  c == ' ' || c == '\t'

/-- White space of either kind. -/
def isGapOrBreak (c : Char) : Bool :=
  isGap c || isBreak c

/-- Whether a text is at its end or starts with a character of a class. -/
def endsOr (p : Char → Bool) : List Char → Bool
  | [] => true
  | c :: _ => p c

/-- Whether a text is at its end, or starts with white space. -/
def atGap (s : List Char) : Bool :=
  endsOr isGapOrBreak s

/-- Whether a text is at its end, or starts with a space or a line end. -/
def atSpace (s : List Char) : Bool :=
  endsOr (fun c ↦ c == ' ' || isBreak c) s

/-- Whether a line starts with three dashes or three full stops, and nothing else before the next
white space. -/
def atDocumentMarker : List Char → Bool
  | a :: b :: c :: rest => a == b && b == c && (a == '-' || a == '.') && atGap rest
  | _ => false

/-- The characters of names: anchors, tag handles and directives. -/
def isNameChar (c : Char) : Bool :=
  c.isAlphanum || c == '-' || c == '_'

/-- The characters that separate the parts of a flow collection. -/
def isFlowIndicator (c : Char) : Bool :=
  c == ',' || c == '[' || c == ']' || c == '\x7b' || c == '\x7d'

end TableProperties.Yaml
