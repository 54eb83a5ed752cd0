import TableProperties.Yaml.Text.Class

/-!
# Block scalars

Reading a scalar that is marked by a bar or an angle bracket and stands on the following lines, all
indented alike. A bar keeps its lines, an angle bracket folds them. The header may fix the
indentation and may say what becomes of the line ends after the last line.

## Main definitions

* `BlockHeader.ofText?`: the header of a block scalar.
* `readBlock?`: the scalar after its bar or angle bracket.
-/

namespace TableProperties.Yaml

/-! ## Headers -/

/-- What becomes of the line ends at the end of a block scalar. -/
inductive Chomping where
  /-- One is kept. -/
  | clip
  /-- None is kept. -/
  | strip
  /-- All are kept. -/
  | keep
  deriving DecidableEq, Repr

/-- The header of a block scalar. -/
structure BlockHeader where
  /-- What becomes of the line ends at the end. -/
  chomping : Chomping
  /-- How much further than its parent the scalar is indented, if that is given. -/
  increment : Option Nat
  deriving DecidableEq, Repr

/-- The sign that tells what becomes of the line ends at the end. -/
def chomping? : Char → Option Chomping
  | '+' => some .keep
  | '-' => some .strip
  | _ => none

/-- A digit that gives an indentation, which is not zero. -/
def increment? (c : Char) : Option Nat :=
  if c.isDigit && c != '0' then some (c.toNat - '0'.toNat) else none

/-- The signs of a header: at most one of each kind, in either order. -/
def headerSigns : List Char → BlockHeader × List Char
  | [] => (⟨.clip, none⟩, [])
  | c :: rest =>
    match chomping? c, increment? c with
    | some chomping, _ =>
      match rest with
      | d :: after =>
        match increment? d with
        | some n => (⟨chomping, some n⟩, after)
        | none => (⟨chomping, none⟩, rest)
      | [] => (⟨chomping, none⟩, [])
    | none, some n =>
      match rest with
      | d :: after =>
        match chomping? d with
        | some chomping => (⟨chomping, some n⟩, after)
        | none => (⟨.clip, some n⟩, rest)
      | [] => (⟨.clip, some n⟩, [])
    | none, none => (⟨.clip, none⟩, c :: rest)

/-- The rest of a line that may hold only spaces and a comment, taken off a text together with the
line end. -/
def skipLineEnd? (s : List Char) : Option (List Char) :=
  let s := s.dropWhile (· == ' ')
  let s := if s.head? = some '#' then s.dropWhile (!isBreak ·) else s
  match s with
  | [] => some []
  | c :: rest => if isBreak c then some rest else none

/-- The header at the front of a text, and the text from the next line on. -/
def BlockHeader.ofText? (s : List Char) : Option (BlockHeader × List Char) :=
  let (header, rest) := headerSigns s
  if atSpace rest then (skipLineEnd? rest).map (header, ·) else none

/-! ## Lines -/

/-- The start of the lines of a block scalar: the line ends before the first line that is not empty,
and where that line stands. -/
structure BlockStart where
  breaks : List Char
  rest : List Char
  column : Nat

/-- Skips empty lines and all spaces at the start of lines; gives the greatest column reached. -/
def detectIndent (breaks : List Char) (column greatest : Nat) :
    List Char → BlockStart × Nat
  | [] => (⟨breaks, [], column⟩, greatest)
  | c :: rest =>
    if c = ' ' then detectIndent breaks (column + 1) (max greatest (column + 1)) rest
    else if isBreak c then detectIndent (breaks ++ [unifiedBreak c]) 0 greatest rest
    else (⟨breaks, c :: rest, column⟩, greatest)

/-- Skips empty lines, and spaces at the start of lines up to the indentation. -/
def skipEmptyLines (indent : Nat) (breaks : List Char) (column : Nat) :
    List Char → BlockStart
  | [] => ⟨breaks, [], column⟩
  | c :: rest =>
    if c = ' ' && column < indent then skipEmptyLines indent breaks (column + 1) rest
    else if isBreak c then skipEmptyLines indent (breaks ++ [unifiedBreak c]) 0 rest
    else ⟨breaks, c :: rest, column⟩

/-- A block scalar up to its last line: its text, the line end of the last line, and what follows. -/
structure BlockBody where
  text : List Char
  lastBreak : List Char
  after : BlockStart

/-- What stands between two lines: in a folded scalar one space for a single line end between lines
that do not start with white space, else the line end; empty lines follow by themselves. -/
def betweenLines (folded : Bool) (lineBreak line next breaks : List Char) : List Char :=
  let flush (s : List Char) := !((s.head?.map isGap).getD false)
  if folded && lineBreak == ['\n'] && flush line && flush next then
    if breaks.isEmpty then [' '] else []
  else lineBreak

/-- The lines of a block scalar. The first argument bounds their number. -/
def blockLines (folded : Bool) (indent : Nat) : Nat → BlockStart → BlockBody
  | 0, start => ⟨[], [], start⟩
  | fuel + 1, start =>
    if start.column ≠ indent || start.rest.isEmpty then ⟨[], [], start⟩
    else
      let line := start.rest.takeWhile (!isBreak ·)
      let (lineBreak, rest) :=
        match start.rest.dropWhile (!isBreak ·) with
        | [] => ([], [])
        | c :: rest => ([unifiedBreak c], rest)
      let column := if lineBreak.isEmpty then indent + line.length else 0
      let next := skipEmptyLines indent [] column rest
      let text := start.breaks ++ line
      if next.column = indent && !next.rest.isEmpty then
        let more := blockLines folded indent fuel next
        ⟨text ++ betweenLines folded lineBreak line next.rest next.breaks ++ more.text,
          more.lastBreak, more.after⟩
      else ⟨text, lineBreak, next⟩

/-- A block scalar, given the text after its bar or angle bracket, and the text after it. The
indentation of its parent is `outer`, which is `-1` at the top. -/
def readBlock? (folded : Bool) (outer : Int) (s : List Char) :
    Option (List Char × List Char) :=
  (BlockHeader.ofText? s).map fun (header, rest) ↦
    let least := (max (outer + 1) 1).toNat
    let (start, indent) :=
      match header.increment with
      | none =>
        let (start, greatest) := detectIndent [] 0 0 rest
        (start, max least greatest)
      | some n =>
        let indent := least + n - 1
        (skipEmptyLines indent [] 0 rest, indent)
    let body := blockLines folded indent (s.length + 1) start
    let tail :=
      match header.chomping with
      | .strip => []
      | .clip => body.lastBreak
      | .keep => body.lastBreak ++ body.after.breaks
    (body.text ++ tail, body.after.rest)

end TableProperties.Yaml
