import TableProperties.Yaml.Text.Mark
import TableProperties.Yaml.Text.Plain
import TableProperties.Yaml.Text.Quoted

/-!
# From text to tokens

The tokens of a text in order. Outside flow collections the start of a token in a deeper column
starts a block collection, and a token in a shallower column ends those that are deeper.

A key is known as one only when its colon is reached. Until then its place in the token list is kept
as a *candidate*, one for each depth of flow collections. A candidate lapses at the end of its line
and after 1024 characters; one that must be a key because of where it stands makes the text
malformed when it lapses.

## Main definitions

* `Lexer`: the position in the text, the tokens so far, the columns of the open block collections
  and the candidates.
* `Lexer.next`: takes one token, `tokens` all of them.
-/

namespace TableProperties.Yaml

/-! ## Positions -/

/-- A position in a text. -/
structure Position where
  /-- The text from here on. -/
  rest : List Char
  /-- The number of characters before it. -/
  index : Nat := 0
  line : Nat := 0
  column : Nat := 0

/-- The position after one character. -/
def Position.next (p : Position) : Position :=
  match p.rest with
  | [] => p
  | c :: rest =>
    if isBreak c then ⟨rest, p.index + 1, p.line + 1, 0⟩
    else ⟨rest, p.index + 1, p.line, if c = Text.Utf8.byteOrderMark then p.column else p.column + 1⟩

/-- The position after `n` characters. -/
def Position.skip (p : Position) : Nat → Position
  | 0 => p
  | n + 1 => p.next.skip n

/-- The position at which what is left of the text is `rest`. -/
def Position.skipTo (p : Position) (rest : List Char) : Position :=
  p.skip (p.rest.length - rest.length)

@[simp] theorem Position.rest_next (p : Position) : p.next.rest = p.rest.tail := by
  unfold Position.next
  cases h : p.rest with
  | nil => simp [h]
  | cons c rest => by_cases hc : isBreak c = true <;> simp [hc]

@[simp] theorem Position.rest_skip (p : Position) (n : Nat) :
    (p.skip n).rest = p.rest.drop n := by
  induction n generalizing p with
  | zero => simp [Position.skip]
  | succ n ih => simp [Position.skip, ih]

/-! ## The state -/

/-- A place in the token list where a key may turn out to start. -/
structure Candidate where
  /-- The number of tokens before it. -/
  place : Nat
  /-- Whether the text is malformed if no key starts here. -/
  isRequired : Bool
  index : Nat
  line : Nat
  column : Nat

/-- The state of the lexer. -/
structure Lexer where
  position : Position
  /-- The tokens so far. -/
  tokens : List Token := []
  /-- The column of the innermost block collection, `-1` if there is none. -/
  indent : Int := -1
  /-- The columns of the block collections around it, the innermost first. -/
  outer : List Int := []
  /-- How many flow collections are open. -/
  depth : Nat := 0
  /-- Whether a key may start here. -/
  allowsKey : Bool := true
  /-- The candidates, each with the depth of flow collections at which it stands. -/
  candidates : List (Nat × Candidate) := []

namespace Lexer

/-- What is left of the text. -/
def rest (x : Lexer) : List Char := x.position.rest

/-- The column of the position. -/
def column (x : Lexer) : Nat := x.position.column

/-- Whether a flow collection is open. -/
def inFlow (x : Lexer) : Bool := x.depth != 0

/-- Adds tokens. -/
def emit (x : Lexer) (tokens : List Token) : Lexer :=
  { x with tokens := x.tokens ++ tokens }

/-- Moves on by some characters. -/
def advance (x : Lexer) (n : Nat) : Lexer :=
  { x with position := x.position.skip n }

/-- Moves on to where the text is `rest`. -/
def advanceTo (x : Lexer) (rest : List Char) : Lexer :=
  { x with position := x.position.skipTo rest }

/-- Says whether a key may start next. -/
def allowKey (x : Lexer) (allowed : Bool) : Lexer :=
  { x with allowsKey := allowed }

/-! ## Candidates -/

/-- The number of characters after which a candidate lapses. -/
def maxKeyLength : Nat := 1024

/-- Whether a candidate is too far behind the position. -/
def hasLapsed (x : Lexer) (c : Candidate) : Bool :=
  c.line != x.position.line || decide (c.index + maxKeyLength < x.position.index)

/-- Drops the candidates that have lapsed. -/
def dropLapsed (x : Lexer) : Except Fault Lexer :=
  if x.candidates.any fun (_, c) ↦ x.hasLapsed c && c.isRequired then .error .malformed
  else .ok { x with candidates := x.candidates.filter fun (_, c) ↦ !x.hasLapsed c }

/-- The candidate at the present depth. -/
def candidate? (x : Lexer) : Option Candidate :=
  x.candidates.lookup x.depth

/-- Forgets the candidate at the present depth. -/
def forget (x : Lexer) : Lexer :=
  { x with candidates := x.candidates.filter fun (depth, _) ↦ depth != x.depth }

/-- Drops the candidate at the present depth, which must not be required. -/
def dropCandidate (x : Lexer) : Except Fault Lexer :=
  if (x.candidate?.map Candidate.isRequired).getD false then .error .malformed
  else .ok x.forget

/-- Makes the next token a candidate, where keys are allowed. At the column of the block collection
around it, it must be a key. -/
def saveCandidate (x : Lexer) : Except Fault Lexer :=
  if x.allowsKey then
    x.dropCandidate.map fun x ↦
      let c : Candidate := {
        place := x.tokens.length
        isRequired := !x.inFlow && x.indent == x.column
        index := x.position.index
        line := x.position.line
        column := x.column }
      { x with candidates := (x.depth, c) :: x.candidates }
  else .ok x

/-! ## Indentation -/

/-- Ends the block collections that are deeper than a column. -/
def unwindTo (column : Int) (indent : Int) : List Int → Int × List Int × List Token
  | [] => (indent, [], [])
  | next :: outer =>
    if column < indent then
      let (indent, outer, tokens) := unwindTo column next outer
      (indent, outer, .blockEnd :: tokens)
    else (indent, next :: outer, [])

/-- Ends the block collections that are deeper than a column; in a flow collection there are no
such ends. -/
def unwind (x : Lexer) (column : Int) : Lexer :=
  if x.inFlow then x
  else
    let (indent, outer, tokens) := unwindTo column x.indent x.outer
    { x.emit tokens with indent := indent, outer := outer }

/-- Opens a block collection at a column, if the column is deeper than the present one. -/
def indentTo (x : Lexer) (column : Nat) : Lexer × Bool :=
  if x.indent < column then ({ x with indent := column, outer := x.indent :: x.outer }, true)
  else (x, false)

/-- Opens a block collection at the present column and adds the token of its start, if the column is
deeper than the present one. Needs a place where a key may start. -/
def openBlock (x : Lexer) (start : Token) : Except Fault Lexer :=
  if x.inFlow then .ok x
  else if !x.allowsKey then .error .malformed
  else
    match x.indentTo x.column with
    | (x, true) => .ok (x.emit [start])
    | (x, false) => .ok x

/-! ## Between tokens -/

/-- The white space and comments in front of a token: their length, and whether they contain a line
end. -/
def gapLength (inComment : Bool) : List Char → Nat × Bool
  | [] => (0, false)
  | c :: rest =>
    if isBreak c then ((gapLength false rest).1 + 1, true)
    else if inComment || c == ' ' then
      let (n, crossed) := gapLength inComment rest
      (n + 1, crossed)
    else if c = '#' then
      let (n, crossed) := gapLength true rest
      (n + 1, crossed)
    else (0, false)

/-- Moves to the next token. -/
def skipGap (x : Lexer) : Lexer :=
  let x := if x.position.index = 0 ∧ x.rest.head? = some Text.Utf8.byteOrderMark then x.advance 1 else x
  let (n, crossed) := gapLength false x.rest
  let x := x.advance n
  if crossed && !x.inFlow then x.allowKey true else x

/-! ## Single tokens -/

/-- A directive or document marker, which ends all block collections. -/
def atTop (x : Lexer) : Except Fault Lexer :=
  (x.unwind (-1)).dropCandidate.map (·.allowKey false)

/-- The start of a flow collection. -/
def openFlow (x : Lexer) (start : Token) : Except Fault Lexer :=
  x.saveCandidate.map fun x ↦
    ({ x with depth := x.depth + 1 }.allowKey true).advance 1 |>.emit [start]

/-- The end of a flow collection, of which one must be open. -/
def closeFlow (x : Lexer) (stop : Token) : Except Fault Lexer :=
  if x.inFlow then
    x.dropCandidate.map fun x ↦
      ({ x with depth := x.depth - 1 }.allowKey false).advance 1 |>.emit [stop]
  else .error .malformed

/-- The separator of the entries of a flow collection. -/
def flowEntry (x : Lexer) : Except Fault Lexer :=
  (x.allowKey true).dropCandidate.map fun x ↦ (x.advance 1).emit [.flowEntry]

/-- The mark of an entry of a block sequence. -/
def blockEntry (x : Lexer) : Except Fault Lexer :=
  match x.openBlock .blockSequenceStart with
  | .error fault => .error fault
  | .ok x => (x.allowKey true).dropCandidate.map fun x ↦ (x.advance 1).emit [.blockEntry]

/-- The mark of a key that is not on one line with its value. -/
def keyMark (x : Lexer) : Except Fault Lexer :=
  match x.openBlock .blockMappingStart with
  | .error fault => .error fault
  | .ok x => (x.allowKey (!x.inFlow)).dropCandidate.map fun x ↦ (x.advance 1).emit [.key]

/-- The mark of a value. If there is a candidate, it was a key; its mark goes in front of it, and
the start of a block mapping in front of that if the key is deeper than the block around it. -/
def valueMark (x : Lexer) : Except Fault Lexer :=
  match x.candidate? with
  | some c =>
    let x := x.forget
    let (x, isNew) := if x.inFlow then (x, false) else x.indentTo c.column
    let marks := if isNew then [Token.blockMappingStart, .key] else [.key]
    let x := { x with tokens := x.tokens.take c.place ++ marks ++ x.tokens.drop c.place }
    .ok ((x.allowKey false).advance 1 |>.emit [.value])
  | none =>
    match x.openBlock .blockMappingStart with
    | .error fault => .error fault
    | .ok x => (x.allowKey (!x.inFlow)).dropCandidate.map fun x ↦ (x.advance 1).emit [.value]

/-- An anchor, alias or tag, which may be the start of a key. The reader is given the text after the
first character. -/
def property (x : Lexer) (read : List Char → Option (Token × List Char)) : Except Fault Lexer :=
  match x.saveCandidate with
  | .error fault => .error fault
  | .ok x =>
    match read x.rest.tail with
    | none => .error .malformed
    | some (token, rest) => .ok ((x.allowKey false).advanceTo rest |>.emit [token])

/-- A block scalar. -/
def blockScalar (x : Lexer) (folded : Bool) : Except Fault Lexer :=
  match (x.allowKey true).dropCandidate with
  | .error fault => .error fault
  | .ok x =>
    match readBlock? folded x.indent x.rest.tail with
    | none => .error .malformed
    | some (text, rest) => .ok ((x.advanceTo rest).emit [.scalar false text])

/-- A quoted scalar. -/
def quotedScalar (x : Lexer) (double : Bool) : Except Fault Lexer :=
  match x.saveCandidate with
  | .error fault => .error fault
  | .ok x =>
    match readQuoted double x.rest.tail with
    | .error fault => .error fault
    | .ok (text, rest) => .ok ((x.allowKey false).advanceTo rest |>.emit [.scalar false text])

/-- A plain scalar. -/
def plainScalar (x : Lexer) : Except Fault Lexer :=
  x.saveCandidate.map fun x ↦
    let s := readPlain x.inFlow (x.indent + 1).toNat x.column x.rest
    (x.allowKey s.crossed).advanceTo s.rest |>.emit [.scalar true s.text]

/-- Whether a character can start no plain scalar. -/
def isIndicator (c : Char) : Bool :=
  "-?:,[]\x7b\x7d#&*!|>'\"%@\x60".toList.contains c

/-- Whether a plain scalar starts here. -/
def startsPlain (x : Lexer) (c : Char) (after : List Char) : Bool :=
  (!isGapOrBreak c && !isIndicator c) ||
    (!atGap after && (c == '-' || (!x.inFlow && (c == '?' || c == ':'))))

/-- The end of the text, which ends all block collections. -/
def finish (x : Lexer) : Except Fault Lexer :=
  (x.unwind (-1)).dropCandidate

/-- The token that starts with a character, given the text after it. -/
def token (x : Lexer) (c : Char) (after : List Char) : Except Fault Lexer :=
  let atMarker := x.column == 0 && atDocumentMarker x.rest
  let isMark := x.inFlow || atGap after
  if c = '%' ∧ x.column = 0 then
    match x.atTop with
    | .error fault => .error fault
    | .ok x => (readDirective after).map fun (token, rest) ↦ (x.advanceTo rest).emit [token]
  else if atMarker then
    x.atTop.map fun x ↦
      (x.advance 3).emit [if c = '-' then .documentStart else .documentEnd]
  else if c = '[' then x.openFlow .flowSequenceStart
  else if c = '\x7b' then x.openFlow .flowMappingStart
  else if c = ']' then x.closeFlow .flowSequenceEnd
  else if c = '\x7d' then x.closeFlow .flowMappingEnd
  else if c = ',' then x.flowEntry
  else if c = '-' ∧ atGap after then x.blockEntry
  else if c = '?' ∧ isMark then x.keyMark
  else if c = ':' ∧ isMark then x.valueMark
  else if c = '*' then x.property fun s ↦ (readName? s).map fun (name, rest) ↦ (.alias name, rest)
  else if c = '&' then x.property fun s ↦ (readName? s).map fun (name, rest) ↦ (.anchor name, rest)
  else if c = '!' then x.property readTag?
  else if c = '|' ∧ !x.inFlow then x.blockScalar false
  else if c = '>' ∧ !x.inFlow then x.blockScalar true
  else if c = '\'' then x.quotedScalar false
  else if c = '"' then x.quotedScalar true
  else if x.startsPlain c after then x.plainScalar
  else .error .malformed

/-- Takes the next token, together with the ends and starts of block collections that come with it.
The flag tells whether the text was at its end. -/
def next (x : Lexer) : Except Fault (Lexer × Bool) :=
  match x.skipGap.dropLapsed with
  | .error fault => .error fault
  | .ok x =>
    let x := x.unwind x.column
    match x.rest with
    | [] => x.finish.map (·, true)
    | c :: after => (x.token c after).map (·, false)

/-- The tokens in front of which no key can turn out to start any more. -/
def settled (x : Lexer) : List Token :=
  match ((x.candidates.filter fun (_, c) ↦ !x.hasLapsed c).map fun (_, c) ↦ c.place).min? with
  | none => x.tokens
  | some place => x.tokens.take place

/-- Takes all tokens. The first argument bounds their number; the text after a fault is not
looked at. A fault comes right behind the tokens that are settled, since the others may still be
part of a key that reaches into it. -/
def run : Nat → Lexer → List Token
  | 0, x => x.tokens
  | fuel + 1, x =>
    match x.next with
    | .error fault => x.settled ++ [.fault fault]
    | .ok (x, true) => x.tokens
    | .ok (x, false) => run fuel x

end Lexer

/-- The tokens of a text. -/
def tokens (s : List Char) : List Token :=
  Lexer.run (s.length + 1) { position := { rest := s } }

end TableProperties.Yaml
