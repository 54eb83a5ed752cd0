import TableProperties.Text.Hex
import TableProperties.Text.Surrogate
import TableProperties.Toml.Fault
import TableProperties.Toml.Text.Split

/-!
# Escapes

The escapes in the strings of a TOML text: a letter after a backslash, or the number of a character
with four or eight hexadecimal digits. The numbers are replaced first.
-/

namespace TableProperties.Toml

open Text

/-- The character that a letter after a backslash stands for. -/
def letterEscape? : Char → Option Char
  | '0' => some '\x00'
  | 'b' => some '\x08'
  | 'f' => some '\x0c'
  | 'n' => some '\n'
  | 'r' => some '\r'
  | 't' => some '\t'
  | '"' => some '"'
  | '\\' => some '\\'
  | _ => none

/-- Replaces the escapes with letters. The two letters for numbers stay as they are, and so does a
backslash at the end. -/
def unescape? : List Char → Option (List Char)
  | [] => some []
  | ['\\'] => some ['\\']
  | '\\' :: c :: rest =>
    match letterEscape? c with
    | some d => (unescape? rest).map (d :: ·)
    | none =>
      if c = 'u' ∨ c = 'U' then (unescape? rest).map fun s ↦ '\\' :: c :: s else none
  | c :: rest => (unescape? rest).map (c :: ·)

/-! ## Numbers of characters -/

/-- Whether a run of hexadecimal digits starts like the number of a surrogate, if it has four. -/
def startsSurrogate : List Char → Bool
  | d :: e :: _ => (d == 'd' || d == 'D') && !('0' ≤ e && e ≤ '7')
  | _ => false

/-- The character of a number. -/
def ofNumber (n : Nat) : Except Fault Char :=
  if 2 ^ 31 ≤ n then .error (.codePoint n)
  else if 0x110000 ≤ n then .error .malformed
  else .ok (ofCodePoint n)

/-- The character whose number is given by some hexadecimal digits. There must be one digit, and a
second one behind the digit that surrogates start with. -/
def ofHexDigits (digits : List Char) : Except Fault Char :=
  match digits, hexValueOf? digits with
  | [], _ | ['d'], _ | ['D'], _ => .error .textEnds
  | _, none => .error .malformed
  | _, some n => if startsSurrogate digits then .error .malformed else ofNumber n

/-- Replaces the numbers in the parts of a text that follow the escape letter. After a backslash
that is escaped itself the letter has no meaning; this is looked for only in front of the first part
and of a part that follows such a letter. -/
def expandParts (letter : Char) (width : Nat) (isLiteral : Bool) :
    List (List Char) → Except Fault (List Char)
  | [] => .ok []
  | part :: rest =>
    if isLiteral then
      (expandParts letter width (escapesNext part.reverse) rest).map fun s ↦
        '\\' :: letter :: (part ++ s)
    else
      match ofHexDigits (part.take width) with
      | .error fault => .error fault
      | .ok c => (expandParts letter width false rest).map fun s ↦ c :: (part.drop width ++ s)

/-- Replaces the numbers with a given count of digits after a given letter. -/
def expandNumbers (letter : Char) (width : Nat) (s : List Char) : Except Fault (List Char) :=
  match splitAt ['\\', letter] s with
  | [] => .ok []
  | first :: parts =>
    (expandParts letter width (escapesNext first.reverse) parts).map (first ++ ·)

/-! ## Whole strings -/

/-- Whether every backslash is followed by a letter that may follow one; the parts are those between
backslashes. -/
def escapesAreKnown (escaped : Bool) : List (List Char) → Bool
  | [] => true
  | [] :: rest => escapesAreKnown (!escaped) rest
  | (c :: _) :: rest =>
    (escaped || c == 'u' || c == 'U' || (c != '\\' && (letterEscape? c).isSome)) &&
      escapesAreKnown false rest

/-- Replaces all escapes of a string. -/
def expand (s : List Char) : Except Fault (List Char) :=
  if escapesAreKnown false (s.splitOn '\\').tail then
    match expandNumbers 'u' 4 s with
    | .error fault => .error fault
    | .ok s =>
      match expandNumbers 'U' 8 s with
      | .error fault => .error fault
      | .ok s =>
        match unescape? s with
        | some s => .ok s
        | none => .error .malformed
  else .error .malformed

end TableProperties.Toml
