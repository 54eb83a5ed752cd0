import TableProperties.Binary64.Literal
import TableProperties.Toml.Timestamp
import TableProperties.Toml.Text.Array

/-!
# Entries

The two sides of an entry, which is written as a key, an equals sign and a value. The sign is the
first one outside quotes behind which something stands that can be a value. The key is a list of
names: one name, or several that are separated by dots.

## Main definitions

* `splitLine?`: the key and the value of a line.
* `keyNames`: the names of a key.
* `Pending`: a value that goes on on the next line.
-/

namespace TableProperties.Toml

open Text

/-! ## The equals sign -/

/-- Whether a text behind an equals sign can be a value. Behind white space anything can. -/
def startsValue (s : List Char) : Bool :=
  match s with
  | [] => true
  | c :: _ =>
    c == ' ' || c == '\t' || isQuote c || c == '[' || c == '\x7b' || trim s == "true".toList ||
      trim s == "false".toList || (Binary64.ofLiteral? s).isSome || hasLongFraction s ||
      (readDate? s).isSome || (ClockForm.ofText? s).isSome

/-- Drops the underscores of a text that starts with a digit. -/
def dropUnderscores (s : List Char) : List Char :=
  match s with
  | c :: _ => if c.isDigit then s.filter (· != '_') else s
  | [] => []

/-- Whether one character of a text is followed by another one. -/
def hasAdjacent (a b : Char) (s : List Char) : Bool :=
  (s.zip s.tail).contains (a, b)

/-- Whether the text of a number has no zero too many in front, behind which only a point or, without
a sign, the letter of a base may stand. -/
def hasTidyStart : List Char → Bool
  | '0' :: c :: _ => c == '.' || c == 'o' || c == 'b' || c == 'x'
  | '+' :: '0' :: c :: _ | '-' :: '0' :: c :: _ => c == '.'
  | _ => true

/-- Whether a text can be a number as far as zeros in front and underscores are concerned: there are
none at its ends, next to a point or next to each other. -/
def isTidyNumber (s : List Char) : Bool :=
  let s := trim s
  !s.isEmpty && s.head? != some '_' && s.getLast? != some '_' && !hasAdjacent '_' '.' s &&
    !hasAdjacent '.' '_' s && !hasAdjacent '_' '_' s && hasTidyStart s

/-- The two sides of a line. -/
structure Sides where
  key : List Char
  value : List Char
  /-- Whether the value may be a number. -/
  isTidy : Bool
  deriving DecidableEq, Repr

/-- Moves on from one equals sign to the next until a value can start; the parts of the line before
and after the sign are those between equals signs. -/
def splitFrom? (isTidy : Bool) (before after : List (List Char)) : Option Sides :=
  match after with
  | [] => none
  | next :: rest =>
    let value := join ['='] (next :: rest)
    let isTidy := isTidy && isTidyNumber value
    if startsValue value then some ⟨join ['='] before, value, isTidy⟩
    else if rest.isEmpty then none
    else splitFrom? isTidy (before ++ [next]) rest

/-- The key and the value of a line, without the white space around them. Underscores of a number
right behind the equals sign are dropped, but if nothing can start there without them, and no
other equals sign follows, they stay. The value may be a number if all texts looked at may. -/
def splitLine? (line : List Char) : Option Sides :=
  let parts := line.splitOn '='
  let n := min (firstOutside ['='] line) (parts.length - 1)
  let key := join ['='] (parts.take n)
  let text := join ['='] (parts.drop n)
  let value := dropUnderscores text
  let isTidy := isTidyNumber text
  let sides :=
    if startsValue value then some ⟨key, value, isTidy⟩
    else if parts.length = n + 1 then
      if startsValue text then some ⟨key, text, isTidy⟩ else none
    else splitFrom? isTidy (parts.take (n + 1)) (parts.drop (n + 1))
  sides.map fun sides ↦ { sides with key := trim sides.key, value := trim sides.value }

/-! ## Keys -/

/-- The names in the parts of a key between quotes. What stands inside quotes is one name, what
stands outside is split at its dots. -/
def namesBetween (quoted : Bool) : List (List Char) → List (List Char)
  | [] => []
  | part :: rest =>
    (if quoted then [part] else (part.splitOn '.').map trim) ++ namesBetween (!quoted) rest

/-- Drops the empty names at the end. -/
def dropEmptyEnd (names : List (List Char)) : List (List Char) :=
  (names.reverse.dropWhile List.isEmpty).reverse

/-- The names of a key: those of the tables on the way, and the last one. Without a dot the key is
one name, and if it is quoted its escapes count. -/
def keyNames (key : List Char) : Except Fault (List String × String) :=
  if key.contains '.' then
    let names :=
      if key.any isQuote then namesBetween false (splitAtQuotes key) else key.splitOn '.'
    let names := dropEmptyEnd names
    match names.getLast? with
    | none => .error .listEnds
    | some last =>
      let others := names.dropLast.filter fun n ↦ !n.isEmpty
      .ok (others.map String.ofList, String.ofList (trim last))
  else
    match key with
    | [] => .error .textEnds
    | c :: _ =>
      if isQuote c && key.getLast? == some c then
        match unescape? (inner key) with
        | some name => .ok ([], String.ofList name)
        | none => .error .malformed
      else .ok ([], String.ofList key)

/-! ## Values over several lines -/

/-- A value that goes on on the next line. -/
structure Pending where
  /-- The last name of its key. -/
  key : String
  /-- The value so far. -/
  text : List Char
  /-- Whether the next line is joined without a line end. -/
  joins : Bool
  deriving DecidableEq, Repr

/-- The text of a value with the end of its line: a backslash that is not escaped joins the next
line. -/
def endLine (text : List Char) : List Char × Bool :=
  if escapesNext text.reverse then (text.dropLast, true) else (text ++ ['\n'], false)

/-- Whether a text starts with three equal quotes and does not end with them. It must not be over
while its quotes are counted. -/
def opensMultiline (s : List Char) : Except Fault Bool :=
  match s with
  | [] => .error .textEnds
  | a :: rest =>
    if isQuote a then
      match rest with
      | [] => .error .textEnds
      | b :: rest =>
        if a = b then
          match rest with
          | [] => .error .textEnds
          | c :: rest =>
            .ok (a == c && !(2 < rest.length && (s.drop (s.length - 3)).all (· == a)))
        else .ok false
    else .ok false

/-- The last item of an array of strings whose end is missing, as far as commas tell. Something must
follow the last comma. -/
def lastItem (parts : List (List Char)) : Except Fault (List Char) :=
  let reversed := parts.reverse
  let isRest (part : List Char) : Bool := !(part.head?.map isQuote).getD false
  let rest := reversed.takeWhile isRest
  if 1 < parts.length && parts.getLast? == some [] then .error .textEnds
  else
    match reversed.drop rest.length with
    | start :: _ => .ok (join [','] (start :: rest.reverse))
    | [] => .ok (join [','] parts)

/-- Whether a value goes on on the next line, because a multi-line string in it is open. -/
def goesOn (value : List Char) : Except Fault Bool :=
  if value.length < 3 then .ok false
  else
    match value with
    | '[' :: rest =>
      if value.getLast? != some ']' && startsWithString rest.dropLast then
        (lastItem ((trim rest).splitOn ',')).bind opensMultiline
      else .ok false
    | value => opensMultiline value

end TableProperties.Toml
