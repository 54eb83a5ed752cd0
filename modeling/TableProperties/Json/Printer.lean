import TableProperties.Integer
import TableProperties.Text.Hex
import TableProperties.Text.Surrogate

/-!
# Writing JSON

Objects of plain values, one member a line and indented by four spaces. Strings are written in one
of two ways: with every character beyond ASCII escaped, or with none. Quotation marks, backslashes
and control characters are escaped in both.

## Main definitions

* `Leaf`: the plain values.
* `StringStyle`: which characters of a string are escaped.
* `pieces` and `object`: the text of an object, in pieces and as a whole.
-/

namespace TableProperties.Json

open Text

/-- A value without parts. -/
inductive Leaf where
  | null
  | bool (b : Bool)
  | int (n : Int)
  | text (s : String)
  deriving DecidableEq, Repr

/-- Which characters of a string are escaped. -/
inductive StringStyle where
  /-- All that are no printable ASCII characters. -/
  | ascii
  /-- Only those that have to be. -/
  | plain
  deriving DecidableEq, Repr

/-- The letter that stands for a character after a backslash. -/
def shortEscape? : Char → Option Char
  | '"' => some '"'
  | '\\' => some '\\'
  | '\n' => some 'n'
  | '\r' => some 'r'
  | '\t' => some 't'
  | '\x0c' => some 'f'
  | '\x08' => some 'b'
  | _ => none

/-- A code unit as an escape. -/
def unitEscape (n : Nat) : List Char :=
  '\\' :: 'u' :: fixedHex hexDigit 4 n

/-- A character as one escape, or as two if it lies beyond the first plane. -/
def charEscape (c : Char) : List Char :=
  let n := codePoint c
  if n < 0x10000 then unitEscape n
  else
    let high := 0xd800 + (n - 0x10000) / 0x400
    let low := 0xdc00 + (n - 0x10000) % 0x400
    unitEscape high ++ unitEscape low

/-- Whether a style writes a character as it is, given that the character has no short escape. -/
def StringStyle.keeps (style : StringStyle) (c : Char) : Bool :=
  match style with
  | .ascii => 0x20 ≤ c.toNat && c.toNat < 0x7f
  | .plain => 0x20 ≤ c.toNat

/-- One character of a string. -/
def writeChar (style : StringStyle) (c : Char) : List Char :=
  match shortEscape? c with
  | some letter => ['\\', letter]
  | none => if style.keeps c then [c] else charEscape c

/-- A string between quotation marks. -/
def writeString (style : StringStyle) (s : List Char) : List Char :=
  '"' :: (s.flatMap (writeChar style) ++ ['"'])

/-- A plain value. -/
def writeLeaf (style : StringStyle) : Leaf → List Char
  | .null => "null".toList
  | .bool true => "true".toList
  | .bool false => "false".toList
  | .int n => Integer.decimal n
  | .text s => writeString style s.toList

/-- The pieces of a member of an object, on a line of its own: what comes before it, the key, what
comes between and the value. -/
def memberPieces (style : StringStyle) (before : List Char) (member : String × Leaf) :
    List (List Char) :=
  [before ++ ['\n', ' ', ' ', ' ', ' '], writeString style member.1.toList, [':', ' '],
    writeLeaf style member.2]

/-- The pieces of an object in which its keys and values stand alone. -/
def pieces (style : StringStyle) : List (String × Leaf) → List (List Char)
  | [] => [['\x7b', '\x7d']]
  | first :: rest =>
    memberPieces style ['\x7b'] first ++ rest.flatMap (memberPieces style [',']) ++ [['\n', '\x7d']]

/-- An object with the given members. -/
def object (style : StringStyle) (members : List (String × Leaf)) : List Char :=
  (pieces style members).flatten

end TableProperties.Json
