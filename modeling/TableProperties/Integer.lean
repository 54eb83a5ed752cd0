import TableProperties.Power
import TableProperties.Text.Blank
import TableProperties.Text.Digit

/-!
# Integers in text

Two ways of reading an integer. A *numeral* is an optional sign and decimal digits of any script,
and nothing else. A *literal* in a given base is the wider form that data files use: white space
around it, a base mark such as `0x`, and single underscores between digits. Both refuse more than
4300 decimal digits.

## Main definitions

* `Numeral.ofText?` and `Numeral.value`: the strict form.
* `readLiteral`: the wide form, in any base up to 36.
* `Int` values are written by `decimal`.
-/

namespace TableProperties.Integer

open Text

/-- The largest number of decimal digits that is converted, in either direction. -/
def maxDigits : Nat := 4300

/-- Why a text is not taken as an integer. -/
inductive Fault where
  /-- The text has another form. -/
  | malformed
  /-- The text has the form of an integer but too many digits. -/
  | tooManyDigits (count : Nat)
  deriving DecidableEq, Repr

/-! ## Writing -/

/-- The decimal form of an integer. -/
def decimal : Int → List Char
  | .ofNat n => Nat.toDigits 10 n
  | .negSucc n => '-' :: Nat.toDigits 10 (n + 1)

/-- The decimal form of an integer, as a string. -/
def decimalText (n : Int) : String :=
  String.ofList (decimal n)

/-- A natural number in decimal, with zeros in front up to the given width. -/
def padded (width n : Nat) : List Char :=
  let digits := Nat.toDigits 10 n
  List.replicate (width - digits.length) '0' ++ digits

/-! ## Messages -/

/-- The message for a numeral or literal with more digits than are converted. -/
def tooManyDigitsMessage (count : Nat) : String :=
  "Exceeds the limit (" ++ decimalText maxDigits ++ " digits) for integer string conversion: " ++
    "value has " ++ decimalText count ++
    " digits; use sys.set_int_max_str_digits() to increase the limit"

/-- The message for a number that has too many digits to be written. -/
def tooLongToWriteMessage : String :=
  "Exceeds the limit (" ++ decimalText maxDigits ++ " digits) for integer string conversion; " ++
    "use sys.set_int_max_str_digits() to increase the limit"

/-- The message for a number that does not fit in a machine word. -/
def tooWideMessage : String :=
  "Python int too large to convert to C int"

/-! ## Numerals -/

/-- An optional sign followed by decimal digits. -/
structure Numeral where
  /-- Whether the sign is a minus. -/
  negative : Bool
  /-- The digits, most significant first. -/
  digits : List Char
  deriving DecidableEq, Repr

/-- Splits off a leading sign; the flag tells whether it is a minus. -/
def splitSign : List Char → Bool × List Char
  | '-' :: rest => (true, rest)
  | '+' :: rest => (false, rest)
  | s => (false, s)

/-- `n` or its negative. -/
def withSign (negative : Bool) (n : Nat) : Int :=
  if negative then -(n : Int) else n

/-- The numeral that a text is, in full. -/
def Numeral.ofText? (s : List Char) : Option Numeral :=
  let (negative, digits) := splitSign s
  if !digits.isEmpty && digits.all isDigit then some ⟨negative, digits⟩ else none

/-- The number that a numeral denotes, unless it has too many digits. -/
def Numeral.value (n : Numeral) : Except Fault Int :=
  if n.digits.length ≤ maxDigits then .ok (withSign n.negative (decimalValue n.digits))
  else .error (.tooManyDigits n.digits.length)

/-! ## Literals -/

/-- The value of a digit in bases up to 36: a decimal digit of any script, or a basic letter. -/
def literalDigit? (c : Char) : Option Nat :=
  match digitValue? c with
  | some n => some n
  | none =>
    let n := c.toNat
    if 0x61 ≤ n && n ≤ 0x7a then some (n - 0x61 + 10)
    else if 0x41 ≤ n && n ≤ 0x5a then some (n - 0x41 + 10)
    else none

/-- The letter after a zero that marks a base. -/
def baseMark? (c : Char) : Option Nat :=
  match c with
  | 'x' | 'X' => some 16
  | 'o' | 'O' => some 8
  | 'b' | 'B' => some 2
  | _ => none

/-- Drops a base mark that agrees with the base, and the underscore that may follow it. -/
def dropBaseMark (base : Nat) : List Char → List Char
  | '0' :: m :: rest =>
    if baseMark? m = some base then
      match rest with
      | '_' :: rest => rest
      | rest => rest
    else '0' :: m :: rest
  | s => s

/-- The values of digits that may be separated by single underscores. -/
def separatedDigits? (base : Nat) : List Char → Option (List Nat)
  | [] => none
  | [c] => (literalDigit? c).bind fun d ↦ if d < base then some [d] else none
  | c :: '_' :: rest =>
    match literalDigit? c, separatedDigits? base rest with
    | some d, some ds => if d < base then some (d :: ds) else none
    | _, _ => none
  | c :: rest =>
    match literalDigit? c, separatedDigits? base rest with
    | some d, some ds => if d < base then some (d :: ds) else none
    | _, _ => none

/-- The base of an unsigned literal that names its own base, ten if there is no mark. -/
def markedBase : List Char → Nat
  | '0' :: m :: _ => (baseMark? m).getD 10
  | _ => 10

/-- Whether a character can belong to the digits of a literal. -/
def isLiteralChar (base : Nat) (c : Char) : Bool :=
  c == '_' || ((literalDigit? c).map (decide <| · < base)).getD false

/-- Whether a base is a power of two, so that reading takes no longer than the text is long. -/
def isPowerOfTwo (base : Nat) : Bool :=
  base &&& (base - 1) == 0

/-- Reads a literal in the given base. Base zero means that the literal names its own base, and
then a decimal literal has no leading zeros unless it is zero. The digit limit does not apply to
bases that are powers of two; it comes before any fault behind the digits. -/
def readLiteral (base : Nat) (s : List Char) : Except Fault Int :=
  let (negative, body) := splitSign (trimNumber s)
  let actual := if base = 0 then markedBase body else base
  let body := dropBaseMark actual body
  match separatedDigits? actual (body.takeWhile (isLiteralChar actual)) with
  | none => .error .malformed
  | some digits =>
    if !isPowerOfTwo actual && maxDigits < digits.length then .error (.tooManyDigits digits.length)
    else
      let value := digits.foldl (fun n d ↦ actual * n + d) 0
      let isZeroLed := base == 0 && actual == 10 && digits.head? == some 0 && value != 0
      if isZeroLed || !(body.dropWhile (isLiteralChar actual)).isEmpty then .error .malformed
      else .ok (withSign negative value)

end TableProperties.Integer
