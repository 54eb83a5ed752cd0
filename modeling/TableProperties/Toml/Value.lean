import TableProperties.Toml.Entry
import TableProperties.Toml.Table

/-!
# Values

The value of a text: a truth value, a string, a number, a time or date, an array whose items are of
one kind, or an inline table.

## Main definitions

* `readValue`: the value of a text.
* `readEntry`: adds the entry of a line to a table.
-/

namespace TableProperties.Toml

open Text

/-! ## Kinds -/

/-- The type that the items of an array must have in common: dates may have times, and tables may be
written in any way. -/
def ValueType.kind : ValueType → ValueType
  | dateTime => date
  | inlineTable => table
  | type => type

/-- Whether two values may be items of one array. -/
def Item.isLike (a b : Item) : Bool :=
  a.type.kind == b.type.kind

/-- Whether a value is a number. -/
def Item.isNumber (item : Item) : Bool :=
  item.type == .int || item.type == .float

/-! ## Values without parts -/

/-- Whether an unsigned number has the form of a floating point number. -/
def isFloatForm (s : List Char) : Bool :=
  s.contains '.' || (!s.contains 'x' && (s.contains 'e' || s.contains 'E'))

/-- Zero minus a number, which is never a negative zero. -/
def minus (x : Binary64) : Binary64 :=
  (Binary64.zero false).add x.neg

/-- A number. A floating point number has a digit in front of its point and something behind it.
Underscores do not count. -/
def readNumber (s : List Char) : Option Scalar :=
  let (negative, body) := Integer.splitSign s
  let body := body.filter (· != '_')
  let word := lower body
  if isFloatForm body then
    let startsWithDigit := (body.head?.map Char.isDigit).getD false
    if body.dropWhile (· != '.') == ['.'] || !startsWithDigit then none
    else (Binary64.ofLiteral? body).map fun x ↦ .float (if negative then minus x else x)
  else if word = "inf".toList ∨ word = "nan".toList then
    (Binary64.ofLiteral? body).map fun x ↦ .float (if negative then minus x else x)
  else
    (Integer.readLiteral 0 body).toOption.map fun n ↦ .int (if negative then -n else n)

/-- A time of day. -/
def ClockForm.time? (t : ClockForm) : Option Scalar :=
  (Time.of t.hour t.minute t.second t.fraction).toOption.map .time

/-- A value that is neither a string nor has parts. -/
def readAtom (s : List Char) : Except Fault Scalar :=
  let orMalformed (x : Option Scalar) : Except Fault Scalar :=
    match x with
    | some x => .ok x
    | none => .error .malformed
  if s = "true".toList then .ok (.bool true)
  else if s = "false".toList then .ok (.bool false)
  else if lower s = "true".toList ∨ lower s = "false".toList then .error .malformed
  else
    match ClockForm.ofText? s with
    | some t => orMalformed t.time?
    | none =>
      if hasLongFraction s then .error .fractionTooLong
      else
        match readDate? s with
        | some d => .ok d
        | none => orMalformed (readNumber s)

/-! ## All values -/

/-- A table after one of its entries, and the value of that entry if it goes on. -/
abbrev AfterEntry := Item × Option Pending

mutual

/-- The value of a text without white space around it. The first argument bounds the depth of
values. -/
def readValue : Nat → List Char → Except Fault Item
  | 0, _ => .error .malformed
  | fuel + 1, s =>
    match s with
    | [] => .error .malformed
    | '[' :: _ =>
      match itemTexts (inner (trim s)) with
      | .error fault => .error fault
      | .ok texts => (readItems fuel none (texts.map trim)).map .array
    | '\x7b' :: _ => readTable fuel s (.table true [])
    | c :: _ =>
      if isQuote c then (readString c s).map fun t ↦ .leaf (.text t)
      else (readAtom s).map .leaf

/-- The values of the items of an array behind one of them; items without text are passed over. -/
def readItems (fuel : Nat) (before : Option Item) : List (List Char) → Except Fault (List Item)
  | [] => .ok []
  | [] :: rest => readItems fuel before rest
  | s :: rest =>
    match readValue fuel s with
    | .error fault => .error fault
    | .ok item =>
      if before.all item.isLike then (readItems fuel (some item) rest).map (item :: ·)
      else .error .malformed

/-- Adds the entries of an inline table to a table. -/
def readTable : Nat → List Char → Item → Except Fault Item
  | 0, _, _ => .error .malformed
  | fuel + 1, s, table =>
    let parts := (inner s).splitOn ','
    if parts.length = 1 ∧ (trim (inner s)).isEmpty then .ok table
    else
      match entryTexts parts with
      | .error fault => .error fault
      | .ok texts => readEntries fuel texts table

/-- Adds some entries to a table. An entry whose value goes on is the last one. -/
def readEntries (fuel : Nat) : List (List Char) → Item → Except Fault Item
  | [], table => .ok table
  | line :: rest, table =>
    match readEntry fuel line table with
    | .error fault => .error fault
    | .ok (table, none) => readEntries fuel rest table
    | .ok (table, some _) => .ok table

/-- Adds the entry of a line to a table. A number must be tidy. If the value goes on on the next
line, only the tables on the way are made. -/
def readEntry : Nat → List Char → Item → Except Fault AfterEntry
  | 0, _, _ => .error .malformed
  | fuel + 1, line, table =>
    match splitLine? line with
    | none => .error .malformed
    | some ⟨key, value, isTidy⟩ =>
      match keyNames key with
      | .error fault => .error fault
      | .ok (names, last) =>
        match table.reach names, goesOn value with
        | .error fault, _ => .error fault
        | .ok _, .error fault => .error fault
        | .ok table, .ok true =>
          let (text, joins) := endLine value
          if (table.insert names last .empty).isNone then .error .malformed
          else if last = "" then .error .namelessStart
          else .ok (table, some ⟨last, text, joins⟩)
        | .ok table, .ok false =>
          match readValue fuel value with
          | .error fault => .error fault
          | .ok item =>
            if item.isNumber && !isTidy then .error .malformed
            else
              match table.insert names last item with
              | some table => .ok (table, none)
              | none => .error .malformed

end

end TableProperties.Toml
