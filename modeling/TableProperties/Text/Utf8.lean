import TableProperties.Integer
import TableProperties.Text.Hex

/-!
# UTF-8

Encoding and decoding of texts. Bytes that are no encoding of a text are reported by the place and
the kind of the first fault, as a byte that starts no character, a character that is not continued,
or an end of the data inside a character.

## Main definitions

* `Utf8.decode`: the text that bytes encode, or the first fault.
* `Utf8.fault?`: the search for the first fault.
-/

namespace TableProperties.Text.Utf8

/-- The byte order mark, which may stand in front of a text. -/
def byteOrderMark : Char := '\ufeff'

/-- What is wrong with an encoding. -/
inductive FaultKind where
  /-- A byte that starts no character. -/
  | badStart
  /-- A character that is not continued as its start demands. -/
  | badContinuation
  /-- The data end inside a character. -/
  | truncated
  deriving DecidableEq, Repr

/-- The first fault of an encoding: its kind, the bytes it spans and where they start. -/
structure Fault where
  kind : FaultKind
  /-- The first byte at fault. -/
  byte : UInt8
  /-- The position of that byte. -/
  start : Nat
  /-- How many bytes are at fault. -/
  length : Nat
  deriving DecidableEq, Repr

/-- Whether a byte continues a character. -/
def isContinuation (b : UInt8) : Bool :=
  0x80 ≤ b && b ≤ 0xbf

/-- The number of bytes after the first one of a character, and the range of the second byte;
nothing for a byte that starts no character. -/
def shape? (b : UInt8) : Option (Nat × UInt8 × UInt8) :=
  if b ≤ 0x7f then some (0, 0x80, 0xbf)
  else if 0xc2 ≤ b && b ≤ 0xdf then some (1, 0x80, 0xbf)
  else if b == 0xe0 then some (2, 0xa0, 0xbf)
  else if b == 0xed then some (2, 0x80, 0x9f)
  else if 0xe1 ≤ b && b ≤ 0xef then some (2, 0x80, 0xbf)
  else if b == 0xf0 then some (3, 0x90, 0xbf)
  else if 0xf1 ≤ b && b ≤ 0xf3 then some (3, 0x80, 0xbf)
  else if b == 0xf4 then some (3, 0x80, 0x8f)
  else none

/-- How many of the bytes that a character still needs follow, up to `count`, the first of them
within the given range. -/
def continued (count : Nat) (least greatest : UInt8) : List UInt8 → Nat
  | [] => 0
  | b :: rest =>
    match count with
    | 0 => 0
    | count + 1 =>
      if least ≤ b && b ≤ greatest then continued count 0x80 0xbf rest + 1 else 0

/-- The first fault of the bytes from position `start` on. -/
def faultFrom? (start : Nat) (bytes : List UInt8) : Option Fault :=
  match bytes with
  | [] => none
  | b :: rest =>
    match shape? b with
    | none => some ⟨.badStart, b, start, 1⟩
    | some (count, least, greatest) =>
      let found := continued count least greatest rest
      if found = count then faultFrom? (start + count + 1) (rest.drop count)
      else if found = rest.length then some ⟨.truncated, b, start, found + 1⟩
      else some ⟨.badContinuation, b, start, found + 1⟩
termination_by bytes.length
decreasing_by simp only [List.length_cons, List.length_drop]; omega

/-- The first fault of some bytes. -/
def fault? (bytes : List UInt8) : Option Fault :=
  faultFrom? 0 bytes

/-- The encoding of a text. -/
def encode (s : String) : ByteArray :=
  s.toUTF8

/-- The text that some bytes encode. -/
def decode (bytes : ByteArray) : Except Fault String :=
  match String.fromUTF8? bytes with
  | some s => .ok s
  | none => .error ((fault? bytes.toList).getD ⟨.badStart, 0, 0, 1⟩)

/-- The words for a kind of fault. -/
def FaultKind.words : FaultKind → String
  | .badStart => "invalid start byte"
  | .badContinuation => "invalid continuation byte"
  | .truncated => "unexpected end of data"

/-- The message for bytes that encode no text. -/
def Fault.message (f : Fault) : String :=
  let place :=
    if f.length = 1 then
      "byte 0x" ++ String.ofList (fixedHex hexDigit 2 f.byte.toNat) ++ " in position " ++
        Integer.decimalText f.start
    else
      "bytes in position " ++ Integer.decimalText f.start ++ "-" ++
        Integer.decimalText (f.start + f.length - 1 : Nat)
  "'utf-8' codec can't decode " ++ place ++ ": " ++ f.kind.words

end TableProperties.Text.Utf8
