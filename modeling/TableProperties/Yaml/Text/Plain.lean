import TableProperties.Yaml.Text.Class

/-!
# Plain scalars

Reading a scalar without quotes. It ends where a key, a comment or, in a flow collection, a
separator begins, and in a block also where a line is indented less than the scalar may be. It may
run over several lines, which are folded like those of a quoted scalar. Spaces and line ends count
only if the scalar goes on after them.

## Main definitions

* `runLength`: how far a scalar goes without white space.
* `PlainGap.ofText`: the white space after such a run, and what it would stand for.
* `readPlain`: the scalar at the front of a text.
-/

namespace TableProperties.Yaml

/-- Whether a plain scalar cannot go on at this point of a line. -/
def endsRun (inFlow : Bool) (c : Char) (rest : List Char) : Bool :=
  isGapOrBreak c ||
    (c == ':' && (atGap rest || (inFlow && endsOr isFlowIndicator rest))) ||
    (inFlow && (isFlowIndicator c || c == '?'))

/-- The number of characters up to the next white space, key or separator. -/
def runLength (inFlow : Bool) : List Char → Nat
  | [] => 0
  | c :: rest => if endsRun inFlow c rest then 0 else runLength inFlow rest + 1

/-- The white space after a run of characters. -/
structure PlainGap where
  /-- What it stands for if the scalar goes on; nothing if the scalar ends here in any case. -/
  text : List Char
  /-- The text after it. -/
  rest : List Char
  /-- The column of that text. -/
  column : Nat
  /-- Whether it contains a line end. -/
  crossed : Bool

/-- The line ends that follow a first one, with the spaces around them: the line ends themselves,
the text after them and its column. A document marker at the start of a line ends the scalar, which
gives no line ends. -/
def followingBreaks (more : List Char) (column : Nat) :
    List Char → Option (List Char) × List Char × Nat
  | [] => (some more, [], column)
  | c :: rest =>
    if c = ' ' then followingBreaks more (column + 1) rest
    else if isBreak c then
      if atDocumentMarker rest then (none, rest, 0)
      else followingBreaks (more ++ [unifiedBreak c]) 0 rest
    else (some more, c :: rest, column)

/-- The white space at the front of a text. -/
def PlainGap.ofText (column : Nat) (s : List Char) : PlainGap :=
  let spaces := s.takeWhile (· == ' ')
  let column := column + spaces.length
  match s.dropWhile (· == ' ') with
  | c :: rest =>
    if !isBreak c then ⟨spaces, c :: rest, column, false⟩
    else if atDocumentMarker rest then ⟨[], rest, 0, true⟩
    else
      let first := unifiedBreak c
      match followingBreaks [] 0 rest with
      | (none, rest, column) => ⟨[], rest, column, true⟩
      | (some more, rest, column) =>
        let text :=
          if first ≠ '\n' then first :: more
          else if more.isEmpty then [' ']
          else more
        ⟨text, rest, column, true⟩
  | [] => ⟨spaces, [], column, false⟩

/-- The columns that a run of characters takes. -/
def width (s : List Char) : Nat :=
  s.countP (· != Text.Utf8.byteOrderMark)

/-- A plain scalar with the text after it and after the white space that follows it. -/
structure PlainScalar where
  text : List Char
  rest : List Char
  /-- Whether the white space after the scalar contains a line end. -/
  crossed : Bool

/-- Reads on in a plain scalar, given what the white space in front stands for. The first argument
bounds the number of runs. -/
def readPlainFrom (inFlow : Bool) (indent : Nat) :
    Nat → PlainGap → PlainScalar
  | 0, gap => ⟨[], gap.rest, gap.crossed⟩
  | fuel + 1, gap =>
    let n := runLength inFlow gap.rest
    if n = 0 ∨ gap.rest.head? = some '#' then ⟨[], gap.rest, gap.crossed⟩
    else
      let run := gap.rest.take n
      let next := PlainGap.ofText (gap.column + width run) (gap.rest.drop n)
      if next.text.isEmpty || next.rest.head? == some '#' ||
          (!inFlow && decide (next.column < indent)) then
        ⟨gap.text ++ run, next.rest, next.crossed⟩
      else
        let more := readPlainFrom inFlow indent fuel next
        ⟨gap.text ++ run ++ more.text, more.rest, more.crossed⟩

/-- The plain scalar at the front of a text that starts in the given column. In a block, a line that
is indented less than `indent` ends the scalar. -/
def readPlain (inFlow : Bool) (indent column : Nat) (s : List Char) : PlainScalar :=
  readPlainFrom inFlow indent (s.length + 1) ⟨[], s, column, false⟩

end TableProperties.Yaml
