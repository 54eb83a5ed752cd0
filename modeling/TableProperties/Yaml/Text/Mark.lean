import TableProperties.Integer
import TableProperties.Text.Hex
import TableProperties.Yaml.Text.Block
import TableProperties.Yaml.Token

/-!
# Directives, names and tags

Reading the tokens that are no scalars and have parts of their own: directives, the names of anchors
and aliases, and tags. Each reader returns what is left of the text.
-/

namespace TableProperties.Yaml

open Text

/-- Takes a name, which is not empty, off a text. -/
def takeName? (s : List Char) : Option (List Char × List Char) :=
  let name := s.takeWhile isNameChar
  if name.isEmpty then none else some (name, s.dropWhile isNameChar)

/-! ## Anchors and aliases -/

/-- Whether an anchor or alias may be followed by this text. -/
def endsName (s : List Char) : Bool :=
  endsOr (fun c ↦ isGapOrBreak c || "?:,]\x7d%@\x60".toList.contains c) s

/-- The name of an anchor or alias. -/
def readName? (s : List Char) : Option (List Char × List Char) :=
  (takeName? s).bind fun (name, rest) ↦ if endsName rest then some (name, rest) else none

/-! ## Tags -/

/-- The characters of a tag that stand for themselves. -/
def isTagChar (c : Char) : Bool :=
  c.isAlphanum || "-;/?:@&=+$,_.!~*'()[]".toList.contains c

/-- The bytes of consecutive escapes, each a percent sign and two digits. -/
def takeEscapes? : List Char → Option (List UInt8 × List Char)
  | '%' :: a :: b :: rest =>
    match hexValue? a, hexValue? b, takeEscapes? rest with
    | some m, some n, some (bytes, rest) => some (UInt8.ofNat (16 * m + n) :: bytes, rest)
    | _, _, _ => none
  | '%' :: _ => none
  | s => some ([], s)

/-- The text of a tag, in which bytes may be escaped. The first argument bounds its parts. -/
def takeTagText? : Nat → List Char → Option (List Char × List Char)
  | 0, s => some ([], s)
  | fuel + 1, s =>
    match s with
    | '%' :: _ =>
      match takeEscapes? s with
      | none => none
      | some (bytes, rest) =>
        match String.fromUTF8? ⟨bytes.toArray⟩ with
        | none => none
        | some text =>
          (takeTagText? fuel rest).map fun (more, rest) ↦ (text.toList ++ more, rest)
    | c :: rest =>
      if isTagChar c then (takeTagText? fuel rest).map fun (more, rest) ↦ (c :: more, rest)
      else some ([], s)
    | [] => some ([], [])

/-- The text of a tag, which is not empty. -/
def readTagText? (s : List Char) : Option (List Char × List Char) :=
  match takeTagText? (s.length + 1) s with
  | some (text, rest) => if text.isEmpty then none else some (text, rest)
  | none => none

/-- A handle: an exclamation mark, or a name between two of them. -/
def readHandle? : List Char → Option (List Char × List Char)
  | '!' :: ' ' :: rest => some (['!'], ' ' :: rest)
  | '!' :: rest =>
    match rest.dropWhile isNameChar with
    | '!' :: after => some ('!' :: (rest.takeWhile isNameChar ++ ['!']), after)
    | _ => none
  | _ => none

/-- Whether the text of a tag holds another exclamation mark, which makes its start a handle. -/
def hasHandle (s : List Char) : Bool :=
  (s.takeWhile fun c ↦ c != ' ' && !isBreak c).contains '!'

/-- A tag after its exclamation mark: in angle brackets, empty, with a handle, or local. -/
def readTag? (s : List Char) : Option (Token × List Char) :=
  let tag :=
    match s with
    | '<' :: rest =>
      match readTagText? rest with
      | some (text, '>' :: rest) => some (Token.tag none text, rest)
      | _ => none
    | s =>
      if atGap s then some (.tag none ['!'], s)
      else if hasHandle s then
        match readHandle? ('!' :: s) with
        | some (handle, rest) =>
          (readTagText? rest).map fun (text, rest) ↦ (.tag (some handle) text, rest)
        | none => none
      else (readTagText? s).map fun (text, rest) ↦ (.tag (some ['!']) text, rest)
  match tag with
  | some (token, rest) => if atSpace rest then some (token, rest) else none
  | none => none

/-! ## Directives -/

/-- A number of a version: basic digits, not too many. -/
def readVersionPart (s : List Char) : Except Fault (Nat × List Char) :=
  let digits := s.takeWhile Char.isDigit
  if digits.isEmpty then .error .malformed
  else if Integer.maxDigits < digits.length then .error (.tooManyDigits digits.length)
  else .ok (decimalValue digits, s.dropWhile Char.isDigit)

/-- The version of the language. -/
def readVersion (s : List Char) : Except Fault (Directive × List Char) :=
  match readVersionPart (s.dropWhile (· == ' ')) with
  | .error fault => .error fault
  | .ok (major, '.' :: rest) =>
    match readVersionPart rest with
    | .error fault => .error fault
    | .ok (_, rest) => if atSpace rest then .ok (.version major, rest) else .error .malformed
  | .ok _ => .error .malformed

/-- A handle and the start of the tags that it abbreviates. -/
def readTagDirective? (s : List Char) : Option (Directive × List Char) :=
  match readHandle? (s.dropWhile (· == ' ')) with
  | some (handle, ' ' :: rest) =>
    match readTagText? (rest.dropWhile (· == ' ')) with
    | some (start, rest) => if atSpace rest then some (.tag handle start, rest) else none
    | none => none
  | _ => none

/-- A directive after its percent sign, up to the end of its line. -/
def readDirective (s : List Char) : Except Fault (Token × List Char) :=
  match takeName? s with
  | none => .error .malformed
  | some (name, rest) =>
    if !atSpace rest then .error .malformed
    else
      let directive : Except Fault (Directive × List Char) :=
        if name = "YAML".toList then readVersion rest
        else if name = "TAG".toList then
          match readTagDirective? rest with
          | some step => .ok step
          | none => .error .malformed
        else .ok (.other, rest.dropWhile (!isBreak ·))
      match directive with
      | .error fault => .error fault
      | .ok (d, rest) =>
        match skipLineEnd? rest with
        | some rest => .ok (.directive d, rest)
        | none => .error .malformed

end TableProperties.Yaml
