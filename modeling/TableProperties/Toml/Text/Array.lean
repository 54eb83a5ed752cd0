import TableProperties.Text.Blank
import TableProperties.Toml.Text.Quoted

/-!
# The items of arrays and inline tables

An array is cut into the texts of its items, and an inline table into those of its entries. A comma
need not separate: it may stand in a string, in a nested array or in a nested table.

## Main definitions

* `itemTexts`: the items of an array.
* `entryTexts`: the entries of an inline table.
-/

namespace TableProperties.Toml

open Text

/-- Whether the first item of an array is a string; the text is that between the brackets. -/
def startsWithString (s : List Char) : Bool :=
  match trim s with
  | c :: _ => isQuote c
  | [] => false

/-! ## Strings -/

/-- Whether a text is empty, or ends in the quote with which it starts, and that quote is not
escaped. -/
def isBounded (s : List Char) : Bool :=
  match s with
  | [] => true
  | c :: rest =>
    s.getLast? == some c && !escapesNext (rest.dropLast.reverse)

/-- Whether a text starts with three quotes and does not end in any of them but the last. -/
def isOpenTriple (s : List Char) : Bool :=
  match s, s.reverse with
  | a :: b :: c :: _, _ :: y :: z :: _ => a == b && b == c && y != a && z != a
  | _, _ => false

/-- Joins the texts after an item to it until it is a whole string. -/
def completeString? (item : List Char) : List (List Char) → Option (List Char × List (List Char))
  | [] => if isBounded (trim item) && !isOpenTriple (trim item) then some (item, []) else none
  | next :: rest =>
    if isBounded (trim item) && !isOpenTriple (trim item) then some (item, next :: rest)
    else completeString? (item ++ ',' :: next) rest

theorem length_of_completeString? {item item' : List Char} {rest rest' : List (List Char)}
    (h : completeString? item rest = some (item', rest')) : rest'.length ≤ rest.length := by
  induction rest generalizing item with
  | nil =>
    rw [completeString?] at h
    split at h
    · cases h; exact Nat.le_refl _
    · cases h
  | cons next rest ih =>
    rw [completeString?] at h
    split at h
    · cases h; exact Nat.le_refl _
    · exact Nat.le_succ_of_le (ih h)

/-- The items of an array of strings, from the texts between commas. The last one is taken as it
is, but a string before it must not need more texts than there are. -/
def stringTexts (parts : List (List Char)) : Except Fault (List (List Char)) :=
  match parts with
  | [] => .ok []
  | [item] => .ok [item]
  | item :: next :: rest =>
    match _h : completeString? item (next :: rest) with
    | none => .error .listEnds
    | some (item, others) => (stringTexts others).map (item :: ·)
termination_by parts.length
decreasing_by
  have := length_of_completeString? _h
  simp only [List.length_cons] at this ⊢
  omega

/-! ## Inline tables -/

/-- The state in which an array of inline tables is cut. -/
structure TableCut where
  /-- The item so far, in reverse. -/
  item : List Char
  /-- How many braces are open. -/
  depth : Nat
  inString : Bool

/-- Drops what separates two items: one character, and then everything up to a brace. -/
def toNextBrace (s : List Char) : List Char :=
  s.tail.dropWhile (· != '\x7b')

theorem length_toNextBrace_le (s : List Char) : (toNextBrace s).length ≤ s.length := by
  have h : (toNextBrace s).length ≤ s.tail.length := (List.dropWhile_sublist _).length_le
  simp only [List.length_tail] at h
  omega

/-- Whether a string is open after a character. -/
def TableCut.stringAfter (x : TableCut) (c : Char) : Bool :=
  if isQuote c then !x.inString || escapesNext x.item else x.inString

/-- The items of an array of inline tables. An item that is not closed is dropped. -/
def tableTexts (x : TableCut) (s : List Char) : List (List Char) :=
  match s with
  | [] => []
  | c :: rest =>
    let inString := x.stringAfter c
    let x : TableCut := ⟨c :: x.item, x.depth, inString⟩
    if inString then tableTexts x rest
    else if c = '\x7b' then tableTexts { x with depth := x.depth + 1 } rest
    else if c = '\x7d' then
      if 1 < x.depth then tableTexts { x with depth := x.depth - 1 } rest
      else
        let next := toNextBrace rest
        x.item.reverse :: tableTexts { x with item := next.take 1 } next.tail
    else tableTexts x rest
termination_by s.length
decreasing_by
  all_goals simp only [List.length_cons]
  · omega
  · omega
  · omega
  · have := length_toNextBrace_le rest
    simp only [List.length_tail]
    omega
  · omega

/-- The items of an array of inline tables, of which the first one starts the text. -/
def tableTextsOf (s : List Char) : List (List Char) :=
  match s with
  | [] => []
  | c :: rest => tableTexts ⟨[c], if c = '\x7b' then 1 else 0, false⟩ rest

/-! ## Nested arrays -/

/-- The items of an array of arrays: only commas outside brackets separate. -/
def nestedTexts (depth : Int) (item : List Char) : List Char → List (List Char)
  | [] => [item.reverse]
  | c :: rest =>
    if c = ',' ∧ depth = 0 then item.reverse :: nestedTexts 0 [] rest
    else
      let depth := if c = '[' then depth + 1 else if c = ']' then depth - 1 else depth
      nestedTexts depth (c :: item) rest

/-! ## Items and entries -/

/-- The texts of the items of an array; the text given is that between the brackets. -/
def itemTexts (s : List Char) : Except Fault (List (List Char)) :=
  if s.contains '[' && (trim (s.takeWhile (· != '['))).isEmpty then .ok (nestedTexts 0 [] s)
  else
    let parts := if (trim s).head? = some '\x7b' then tableTextsOf s else s.splitOn ','
    if startsWithString s then stringTexts parts else .ok parts

/-- Whether a text can be the whole value of an entry, judged by its ends. -/
def looksWhole (s : List Char) : Bool :=
  match s, s.getLast? with
  | c :: _, some d =>
    (c == d && isQuote c) || c == '-' || c.isDigit || s == "true".toList || s == "false".toList ||
      (c == '[' && d == ']') || (c == '\x7b' && d == '\x7d')
  | _, _ => false

/-- Joins the texts between the commas of an inline table to entries. Each must have an equals
sign, and something behind it. -/
def entryTexts (parts : List (List Char)) : Except Fault (List (List Char)) :=
  match parts with
  | [] => .ok []
  | part :: rest =>
    if part.contains '=' then
      match trim (part.dropWhile (· != '=')).tail, rest with
      | [], _ => .error .textEnds
      | value, rest =>
        if looksWhole value then (entryTexts rest).map (part :: ·)
        else
          match rest with
          | [] => .error .malformed
          | next :: rest => entryTexts ((part ++ ',' :: next) :: rest)
    else .error .malformed
termination_by parts.length

end TableProperties.Toml
