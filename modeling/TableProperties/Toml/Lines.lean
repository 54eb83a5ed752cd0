import TableProperties.Text.Alphanumeric
import TableProperties.Text.Blank
import TableProperties.Toml.Fault
import TableProperties.Toml.Text.Split

/-!
# Logical lines

A first pass over a TOML text. It blanks comments, joins the lines of an array that spans several,
drops a line end right after the start of a multi-line string, and checks that keys have values and
that quotes are balanced. What remains is cut into lines.

A quote or bracket is judged by the characters in front of it. The text is looked at as a ring: in
front of its first character stands its last one.

## Main definitions

* `Scan`: the state of the pass.
* `logicalLines`: the lines of a text.
-/

namespace TableProperties.Toml

open Text

/-- Where the pass is with respect to the key of a line. -/
inductive KeyPlace where
  /-- Outside a key. -/
  | outside
  /-- Inside a key. -/
  | inside
  /-- Behind a part of a key. -/
  | behind
  deriving DecidableEq, Repr

/-- The header of a table that is open. -/
inductive Header where
  | table
  | arrayOfTables
  deriving DecidableEq, Repr

/-- The state of the pass. -/
structure Scan where
  /-- What has been passed, in reverse and with its changes. -/
  passed : List Char := []
  key : KeyPlace := .outside
  /-- Whether the key has a dot. -/
  dotted : Bool := false
  /-- The quote of the string that is open. -/
  quote : Option Char := none
  /-- Whether a multi-line string is open. -/
  multiline : Bool := false
  /-- How many arrays are open. -/
  arrays : Int := 0
  header : Option Header := none
  /-- Whether only white space has been seen on this line. -/
  lineStart : Bool := true

namespace Scan

/-- Passes a character. -/
def pass (x : Scan) (c : Char) : Scan :=
  { x with passed := c :: x.passed }

/-! ## Keys -/

/-- After a dot or white space in a dotted key: the key goes on unless white space or a dot
follows. The text must not end here. -/
def goOn (x : Scan) (rest : List Char) : Except Fault Scan :=
  match rest with
  | [] => .error .listEnds
  | next :: _ => .ok (if isBlank next || next == '.' then x else { x with key := .inside })

/-- A character of a key other than the equals sign after it; a fault if it cannot be one. -/
def keyChar (x : Scan) (c : Char) (rest : List Char) : Except Fault Scan :=
  match x.quote with
  | some q =>
    .ok (if c = q ∧ !escapesNext x.passed then { x with key := .behind, quote := none } else x)
  | none =>
    match x.key with
    | .outside => .error .malformed
    | .inside =>
      if isBlank c then .ok { x with key := .behind }
      else if c = '.' then .ok { x with dotted := true }
      else if isAlphanumeric c || c == '_' || c == '-' then .ok x
      else if x.dotted && x.passed.head? == some '.' && (c == '"' || c == '\'') then
        .ok { x with quote := some c }
      else .error .malformed
    | .behind =>
      if isBlank c then (if x.dotted then x.goOn rest else .ok x)
      else if c = '.' then { x with dotted := true }.goOn rest
      else .error .malformed

/-! ## Quotes and brackets -/

/-- How many characters in front of a place are a given quote, counted up to two, and what stands in
front of those. -/
def quotesBefore (quote : Char) : List Char → Nat × List Char
  | a :: b :: rest =>
    if a = quote then (if b = quote then (2, rest) else (1, b :: rest)) else (0, a :: b :: rest)
  | [a] => if a = quote then (1, []) else (0, [a])
  | [] => (0, [])

/-- A quote that is not part of a string in the other quotes. The third of three quotes opens or
closes a multi-line string, any other one a string. A double quote may be escaped. -/
def quoteChar (x : Scan) (c : Char) (rest : List Char) : Scan :=
  let (count, before) := quotesBefore c (x.passed ++ (c :: rest).reverse)
  if c = '"' ∧ count ≠ 1 ∧ escapesNext before then x
  else if count = 2 then
    { x with multiline := !x.multiline, quote := if x.multiline then none else some c }
  else { x with quote := if x.quote.isSome then none else some c }

/-- An opening bracket outside strings and headers: a header at the start of a line, or an array. -/
def openBracket (x : Scan) (rest : List Char) : Scan :=
  if x.lineStart then
    { x with header := some (if rest.head? = some '[' then .arrayOfTables else .table) }
  else { x with arrays := x.arrays + 1 }

/-- A closing bracket outside strings. Two of them close the header of an array of tables. -/
def closeBracket (x : Scan) (rest : List Char) : Scan :=
  match x.header with
  | some .table => { x with header := none }
  | some .arrayOfTables =>
    if (x.passed ++ (']' :: rest).reverse).head? = some ']' then { x with header := none } else x
  | none => { x with arrays := x.arrays - 1 }

/-! ## Single characters -/

/-- A line end. In a multi-line string it is kept, unless it follows the opening quotes, which then
move by one; in an array it becomes a space. -/
def lineEnd (x : Scan) : Except Fault Scan :=
  if x.multiline then
    match x.passed with
    | a :: b :: rest =>
      if (a = '"' ∨ a = '\'') ∧ b = a then
        match rest with
        | c :: rest =>
          .ok { x with passed := a :: a :: b :: (if c = a then ' ' else c) :: rest }
        | [] => .ok { x with passed := a :: x.passed }
      else .ok (x.pass '\n')
    | _ => .ok (x.pass '\n')
  else if x.quote.isSome then .error .malformed
  else if x.arrays ≠ 0 then .ok (x.pass ' ')
  else .ok { x.pass '\n' with lineStart := true }

/-- A character that is no line end. The first one of a line that is not white space starts a key,
unless it starts a header. -/
def endChar (x : Scan) (c : Char) : Except Fault Scan :=
  if x.lineStart ∧ c ≠ ' ' ∧ c ≠ '\t' then
    if x.header.isSome then .ok { x.pass c with lineStart := false }
    else if c = '=' then .error .malformed
    else .ok { x.pass c with lineStart := false, key := .inside }
  else .ok (x.pass c)

/-- A character outside keys and comments. -/
def step (x : Scan) (c : Char) (rest : List Char) : Except Fault Scan :=
  let x :=
    if (c = '\'' ∧ x.quote ≠ some '"') ∨ (c = '"' ∧ x.quote ≠ some '\'') then x.quoteChar c rest
    else x
  let x := if c = '[' ∧ x.quote = none ∧ x.header = none then x.openBracket rest else x
  let x := if c = ']' ∧ x.quote = none then x.closeBracket rest else x
  if c = '\n' then x.lineEnd else x.endChar c

/-- Whether a comment starts with a character. -/
def startsComment (x : Scan) (c : Char) : Bool :=
  c == '#' && x.quote.isNone && x.header.isNone

/-- Passes a text. The flag tells whether a comment is open, whose characters become spaces. -/
def run (x : Scan) (inComment : Bool) : List Char → Except Fault Scan
  | [] => .ok x
  | c :: rest =>
    if inComment && c != '\n' then (x.pass ' ').run true rest
    else if x.key = .outside then
      if x.startsComment c then (x.pass ' ').run true rest
      else (x.step c rest).bind fun x ↦ x.run false rest
    else if c = '\n' then .error .malformed
    else if c = '=' ∧ x.quote = none then
      ({ x with key := .outside, dotted := false }.step c rest).bind fun x ↦ x.run false rest
    else (x.keyChar c rest).bind fun x ↦ (x.pass c).run false rest

end Scan

/-- The lines of a text, if its keys have values and its quotes are balanced. -/
def logicalLines (s : List Char) : Except Fault (List (List Char)) :=
  match Scan.run {} false s with
  | .error fault => .error fault
  | .ok x =>
    if x.key ≠ .outside ∨ x.quote.isSome then .error .malformed
    else .ok (x.passed.reverse.splitOn '\n')

end TableProperties.Toml
