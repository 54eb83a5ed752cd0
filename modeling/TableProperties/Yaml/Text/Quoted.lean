import TableProperties.Text.Hex
import TableProperties.Text.Surrogate
import TableProperties.Yaml.Fault
import TableProperties.Yaml.Text.Class

/-!
# Quoted scalars

Reading a scalar between apostrophes or between quotation marks. Both kinds may run over several
lines: a line end with the white space around it stands for a space, and empty lines in between
stand for line feeds. Between apostrophes, two of them stand for one; between quotation marks, a
backslash starts an escape.

The reader is an automaton that takes one character at a time. Its state tells what has been seen
and not yet decided: white space that counts only if the line goes on, line ends that are to be
folded, or part of an escape.

## Main definitions

* `QuotedState` and its `pending` text.
* `readQuoted`: the scalar after its opening quote, and the text after its closing one.
-/

namespace TableProperties.Yaml

open Text

/-- Where the reader of a quoted scalar stands. -/
inductive QuotedState where
  /-- Between characters. -/
  | open
  /-- After white space within a line, given in reverse. -/
  | gap (seen : List Char)
  /-- After a line end and the further line ends that followed, at the start of a line. -/
  | folded (first : Char) (more : List Char)
  /-- After an escaped line end and the further line ends that followed, at the start of a line. -/
  | joined (more : List Char)
  /-- After the first of two apostrophes. -/
  | twin
  /-- After a backslash. -/
  | escape
  /-- Inside an escaped code point: the digits still to come and the value so far. -/
  | hex (left value : Nat)
  deriving DecidableEq, Repr

/-- What a line end and the further ones that follow stand for. -/
def foldBreaks (first : Char) (more : List Char) : List Char :=
  if first ≠ '\n' then first :: more
  else if more.isEmpty then [' ']
  else more

/-- The text that a state holds back, once it is clear that the scalar goes on. -/
def QuotedState.pending : QuotedState → List Char
  | .gap seen => seen.reverse
  | .folded first more => foldBreaks first more
  | .joined more => more
  | _ => []

/-- The character of a short escape. -/
def shortEscape? : Char → Option Char
  | '0' => some '\x00'
  | 'a' => some '\x07'
  | 'b' => some '\x08'
  | 't' | '\t' => some '\t'
  | 'n' => some '\n'
  | 'v' => some '\x0b'
  | 'f' => some '\x0c'
  | 'r' => some '\r'
  | 'e' => some '\x1b'
  | ' ' => some ' '
  | '"' => some '"'
  | '\\' => some '\\'
  | '/' => some '/'
  | 'N' => some '\u0085'
  | '_' => some '\u00a0'
  | 'L' => some '\u2028'
  | 'P' => some '\u2029'
  | _ => none

/-- The number of digits of an escaped code point, by its letter. -/
def hexLength? : Char → Option Nat
  | 'x' => some 2
  | 'u' => some 4
  | 'U' => some 8
  | _ => none

/-- The character of an escaped code point. -/
def ofEscaped (n : Nat) : Except Fault Char :=
  if 0x110000 ≤ n then .error (.codePoint n) else .ok (ofCodePoint n)

/-- What one character does: the text that is now certain and the next state, or the end of the
scalar. -/
inductive QuotedStep where
  | next (text : List Char) (state : QuotedState)
  | done

/-- One character between other characters, which is no white space. The text after it tells
whether an apostrophe ends the scalar. -/
def quotedChar (double : Bool) (c : Char) (rest : List Char) : QuotedStep :=
  if double then
    if c = '"' then .done else if c = '\\' then .next [] .escape else .next [c] .open
  else if c = '\'' then
    if rest.head? = some '\'' then .next [] .twin else .done
  else .next [c] .open

/-- One character outside an escape. White space is held back, a line that starts with a document
marker is refused, and any other character releases what was held back. -/
def quotedStep (double : Bool) (state : QuotedState) (c : Char) (rest : List Char) :
    Except Fault QuotedStep :=
  if isBreak c then
    if atDocumentMarker rest then .error .malformed
    else
      match state with
      | .folded first more => .ok (.next [] (.folded first (more ++ [unifiedBreak c])))
      | .joined more => .ok (.next [] (.joined (more ++ [unifiedBreak c])))
      | _ => .ok (.next [] (.folded (unifiedBreak c) []))
  else if isGap c then
    match state with
    | .folded .. | .joined _ => .ok (.next [] state)
    | .gap seen => .ok (.next [] (.gap (c :: seen)))
    | _ => .ok (.next [] (.gap [c]))
  else
    match quotedChar double c rest with
    | .next text next => .ok (.next (state.pending ++ text) next)
    | .done => .ok .done

/-- The character after a backslash. -/
def escapeStep (c : Char) (rest : List Char) : Except Fault QuotedStep :=
  match shortEscape? c, hexLength? c with
  | some d, _ => .ok (.next [d] .open)
  | none, some n => .ok (.next [] (.hex n 0))
  | none, none =>
    if isBreak c && !atDocumentMarker rest then .ok (.next [] (.joined [])) else .error .malformed

/-- A digit of an escaped code point. -/
def hexStep (left value : Nat) (c : Char) : Except Fault QuotedStep :=
  match hexValue? c with
  | none => .error .malformed
  | some d =>
    let value := 16 * value + d
    if left ≤ 1 then (ofEscaped value).map fun c ↦ .next [c] .open
    else .ok (.next [] (.hex (left - 1) value))

/-- Reads on in a quoted scalar. -/
def readQuotedFrom (double : Bool) :
    QuotedState → List Char → Except Fault (List Char × List Char)
  | _, [] => .error .malformed
  | state, c :: rest =>
    let step : Except Fault QuotedStep :=
      match state with
      | .twin => .ok (.next ['\''] .open)
      | .escape => escapeStep c rest
      | .hex left value => hexStep left value c
      | state => quotedStep double state c rest
    match step with
    | .error fault => .error fault
    | .ok .done => .ok (state.pending, rest)
    | .ok (.next text state) =>
      (readQuotedFrom double state rest).map fun (scalar, rest) ↦ (text ++ scalar, rest)

/-- The scalar after an opening quote, and the text after the closing one. -/
def readQuoted (double : Bool) (s : List Char) : Except Fault (List Char × List Char) :=
  readQuotedFrom double .open s

end TableProperties.Yaml
