import TableProperties.Toml.Text.Escape

/-!
# Strings

Strings between single or double quotes, one or three at each end. Escapes count only between double
quotes.
-/

namespace TableProperties.Toml

/-- The text without its first and last character. -/
def inner (s : List Char) : List Char :=
  s.tail.dropLast

/-- Whether a character is a quote. -/
def isQuote (c : Char) : Bool :=
  c == '"' || c == '\''

/-- Whether nothing follows the end of a string; the parts are those between quotes, after the
opening ones. The flag tells whether the string has ended, and `empties` counts the empty parts of a
string in triple quotes. A quote after an odd number of backslashes ends nothing. -/
def endsCleanly (triple closed : Bool) (empties : Nat) : List (List Char) → Bool
  | [] => true
  | [] :: rest =>
    if triple then endsCleanly triple closed (empties + 1) rest
    else endsCleanly triple true empties rest
  | part :: rest =>
    if escapesNext part.reverse then endsCleanly triple closed empties rest
    else if closed then false
    else if !triple || 1 < empties then endsCleanly triple true empties rest
    else endsCleanly triple closed 0 rest

/-- Drops the quotes at both ends of a text whose escapes have been replaced. Two quotes at the
start are taken for the first of three. -/
def dropQuotes (quote : Char) (s : List Char) : List Char :=
  match s with
  | _ :: b :: c :: _ => if b = quote ∧ c = quote then inner (inner (inner s)) else inner s
  | _ => []

/-- The content of a string that starts with the given quote. -/
def readString (quote : Char) (s : List Char) : Except Fault String :=
  let clean :=
    match s.tail.splitOn quote with
    | [] :: [] :: parts => endsCleanly true false 0 parts
    | parts => endsCleanly false false 0 parts
  if clean then
    let expanded := if quote = '"' then expand s else .ok s
    expanded.map fun s ↦ String.ofList (dropQuotes quote s)
  else .error .malformed

end TableProperties.Toml
