import TableProperties.Binary64.Literal
import TableProperties.Document.Basic

/-!
# Reading JSON

A reader of JSON texts. Beyond the standard it takes the three words for the numbers that are not
finite; it takes no comments, no trailing commas and no control characters inside strings. Of
repeated keys the last value wins.

Each part of the reader takes the characters that belong to it off the front of a text and returns
what it has read together with the rest.

## Main definitions

* `readString`: the characters of a string after its opening quotation mark.
* `numberText`: the longest number at the front of a text.
* `read`: the document of a whole text.
-/

namespace TableProperties.Json

open Text

/-- Why a text is not read. -/
inductive Fault where
  /-- The text is not JSON. -/
  | malformed
  /-- An integer has more digits than are converted. -/
  | tooManyDigits (count : Nat)
  deriving DecidableEq, Repr

/-- A value and the text after it. -/
abbrev Step (α : Type) := Except Fault (α × List Char)

/-! ## White space -/

/-- Whether `c` may stand between the parts of a text. -/
def isSpace (c : Char) : Bool :=
  c == ' ' || c == '\t' || c == '\n' || c == '\r'

/-- The text from its first part on. -/
def skipSpace (s : List Char) : List Char :=
  s.dropWhile isSpace

/-! ## Strings -/

/-- The character that a backslash and a letter stand for. -/
def simpleEscape? : Char → Option Char
  | '"' => some '"'
  | '\\' => some '\\'
  | '/' => some '/'
  | 'b' => some '\x08'
  | 'f' => some '\x0c'
  | 'n' => some '\n'
  | 'r' => some '\r'
  | 't' => some '\t'
  | _ => none

/-- The value of four hexadecimal digits. -/
def unit? (a b c d : Char) : Option Nat :=
  hexValueOf? [a, b, c, d]

/-- The value of an escaped code unit at the front of a text, and the text after it. -/
def escapedUnit? : List Char → Option (Nat × List Char)
  | '\\' :: 'u' :: a :: b :: c :: d :: rest => (unit? a b c d).map (·, rest)
  | _ => none

/-- One character of a string, which may be written as one or two escapes, and the text after it;
nothing at the closing quotation mark or where a string cannot go on. -/
def stringChar? : List Char → Option (Char × List Char)
  | '\\' :: 'u' :: rest =>
    match escapedUnit? ('\\' :: 'u' :: rest) with
    | none => none
    | some (high, rest) =>
      if isHighSurrogate high then
        match escapedUnit? rest with
        | some (low, after) =>
          if isLowSurrogate low then some (ofSurrogates high low, after)
          else some (ofCodePoint high, rest)
        | none => some (ofCodePoint high, rest)
      else some (ofCodePoint high, rest)
  | '\\' :: c :: rest => (simpleEscape? c).map (·, rest)
  | c :: rest => if c = '"' ∨ c = '\\' ∨ c.toNat < 0x20 then none else some (c, rest)
  | [] => none

private theorem length_escapedUnit? {s rest : List Char} {n : Nat}
    (h : escapedUnit? s = some (n, rest)) : rest.length < s.length := by
  unfold escapedUnit? at h
  split at h
  · simp only [Option.map_eq_some_iff, Prod.mk.injEq] at h
    obtain ⟨_, _, _, rfl⟩ := h
    simp only [List.length_cons]
    omega
  · simp at h

/-- A character of a string takes at least one character of the text. -/
theorem length_stringChar? {s rest : List Char} {c : Char}
    (h : stringChar? s = some (c, rest)) : rest.length < s.length := by
  unfold stringChar? at h
  split at h
  · next s =>
    cases hu : escapedUnit? ('\\' :: 'u' :: s) with
    | none => simp [hu] at h
    | some p =>
      obtain ⟨high, after⟩ := p
      have hlen := length_escapedUnit? hu
      simp only [hu] at h
      split at h
      · cases hv : escapedUnit? after with
        | none => simp only [hv, Option.some.injEq, Prod.mk.injEq] at h; exact h.2 ▸ hlen
        | some q =>
          obtain ⟨low, last⟩ := q
          have hlen' := length_escapedUnit? hv
          simp only [hv] at h
          split at h <;> simp only [Option.some.injEq, Prod.mk.injEq] at h <;>
            (obtain ⟨-, rfl⟩ := h; omega)
      · simp only [Option.some.injEq, Prod.mk.injEq] at h
        exact h.2 ▸ hlen
  · simp only [Option.map_eq_some_iff, Prod.mk.injEq] at h
    obtain ⟨_, _, _, rfl⟩ := h
    simp only [List.length_cons]
    omega
  · split at h
    · simp at h
    · simp only [Option.some.injEq, Prod.mk.injEq] at h
      simp [h.2]
  · simp at h

/-- The characters of a string after its opening quotation mark. -/
def readString (s : List Char) : Step (List Char) :=
  match s with
  | '"' :: rest => .ok ([], rest)
  | s =>
    match _h : stringChar? s with
    | none => .error .malformed
    | some (c, rest) => (readString rest).map fun (cs, rest) ↦ (c :: cs, rest)
termination_by s.length
decreasing_by exact length_stringChar? (by assumption)

/-! ## Numbers -/

/-- The sign at the front of a text, if it is a minus. -/
def takeMinus : List Char → List Char × List Char
  | '-' :: rest => (['-'], rest)
  | s => ([], s)

/-- The whole part of a number: a zero, or digits that do not start with one. -/
def takeWhole? : List Char → Option (List Char × List Char)
  | '0' :: rest => some (['0'], rest)
  | s =>
    let digits := s.takeWhile Char.isDigit
    if digits.isEmpty then none else some (digits, s.dropWhile Char.isDigit)

/-- A point and the digits after it, or nothing. -/
def takePart : List Char → List Char × List Char
  | '.' :: rest =>
    let digits := rest.takeWhile Char.isDigit
    if digits.isEmpty then ([], '.' :: rest) else ('.' :: digits, rest.dropWhile Char.isDigit)
  | s => ([], s)

/-- A sign, or nothing. -/
def takeSign : List Char → List Char × List Char
  | '-' :: rest => (['-'], rest)
  | '+' :: rest => (['+'], rest)
  | s => ([], s)

/-- A power of ten, or nothing. -/
def takePower : List Char → List Char × List Char
  | [] => ([], [])
  | e :: rest =>
    if e = 'e' ∨ e = 'E' then
      let (sign, after) := takeSign rest
      let digits := after.takeWhile Char.isDigit
      if digits.isEmpty then ([], e :: rest)
      else (e :: sign ++ digits, after.dropWhile Char.isDigit)
    else ([], e :: rest)

/-- A number with the text after it. -/
def readNumber (s : List Char) : Step Scalar :=
  let (minus, s) := takeMinus s
  match takeWhole? s with
  | none => .error .malformed
  | some (whole, s) =>
    let (part, s) := takePart s
    let (power, s) := takePower s
    if part.isEmpty && power.isEmpty then
      match Integer.readLiteral 10 (minus ++ whole) with
      | .ok n => .ok (.int n, s)
      | .error (.tooManyDigits count) => .error (.tooManyDigits count)
      | .error .malformed => .error .malformed
    else
      match Binary64.ofLiteral? (minus ++ whole ++ part ++ power) with
      | some x => .ok (.float x, s)
      | none => .error .malformed

/-! ## Words -/

/-- The words that are values. -/
def words : List (List Char × Scalar) := [
  ("null".toList, .null), ("true".toList, .bool true), ("false".toList, .bool false),
  ("NaN".toList, .float .nan), ("Infinity".toList, .float (.infinite false)),
  ("-Infinity".toList, .float (.infinite true))]

/-- The word at the front of a text, with the text after it. -/
def word? (s : List Char) : Option (Scalar × List Char) :=
  words.findSome? fun (w, value) ↦
    if w.isPrefixOf s then some (value, s.drop w.length) else none

/-- A word or a number. -/
def readAtom (s : List Char) : Step Scalar :=
  match word? s with
  | some step => .ok step
  | none => readNumber s

/-! ## Values -/

/-- A key with the colon after it, and the text of its value. -/
def readKey (s : List Char) : Step String :=
  match s with
  | '"' :: rest =>
    match readString rest with
    | .error fault => .error fault
    | .ok (key, rest) =>
      match skipSpace rest with
      | ':' :: rest => .ok (String.ofList key, skipSpace rest)
      | _ => .error .malformed
  | _ => .error .malformed

mutual

/-- A value at the front of a text. The first argument bounds the number of calls. -/
def readValue : Nat → List Char → Step Document
  | 0, _ => .error .malformed
  | fuel + 1, s =>
    match s with
    | '"' :: rest => (readString rest).map fun (cs, rest) ↦ (.scalar (.text (String.ofList cs)), rest)
    | '\x7b' :: rest =>
      match skipSpace rest with
      | '\x7d' :: rest => .ok (Document.ofEntries [], rest)
      | rest => (readMembers fuel rest).map fun (es, rest) ↦ (Document.ofEntries es, rest)
    | '[' :: rest =>
      match skipSpace rest with
      | ']' :: rest => .ok (.list [], rest)
      | rest => (readItems fuel rest).map fun (ds, rest) ↦ (.list ds, rest)
    | s => (readAtom s).map fun (x, rest) ↦ (.scalar x, rest)

/-- The members of an object up to its closing brace. -/
def readMembers : Nat → List Char → Step (List (Scalar × Document))
  | 0, _ => .error .malformed
  | fuel + 1, s =>
    match readKey s with
    | .error fault => .error fault
    | .ok (key, rest) =>
      match readValue fuel rest with
      | .error fault => .error fault
      | .ok (value, rest) =>
        match skipSpace rest with
        | '\x7d' :: rest => .ok ([(.text key, value)], rest)
        | ',' :: rest =>
          (readMembers fuel (skipSpace rest)).map fun (es, rest) ↦ ((.text key, value) :: es, rest)
        | _ => .error .malformed

/-- The items of an array up to its closing bracket. -/
def readItems : Nat → List Char → Step (List Document)
  | 0, _ => .error .malformed
  | fuel + 1, s =>
    match readValue fuel s with
    | .error fault => .error fault
    | .ok (value, rest) =>
      match skipSpace rest with
      | ']' :: rest => .ok ([value], rest)
      | ',' :: rest =>
        (readItems fuel (skipSpace rest)).map fun (ds, rest) ↦ (value :: ds, rest)
      | _ => .error .malformed

end

/-- The document of a text, which is one value and white space around it. Of two nested calls at
least one takes a character of the text, so their number is bounded by twice its length. -/
def read (s : List Char) : Except Fault Document :=
  match readValue (2 * s.length + 2) (skipSpace s) with
  | .error fault => .error fault
  | .ok (d, rest) => if (skipSpace rest).isEmpty then .ok d else .error .malformed

end TableProperties.Json
