import TableProperties.Text.Blank
import TableProperties.Toml.Table
import TableProperties.Toml.Text.Quoted

/-!
# Headers

The header of a table names its place in the tree, in single brackets or, for another table of an
array, in double ones.

## Main definitions

* `HeaderForm.ofLine?`: the names in a header.
* `Tree.enter`: makes the table of a header and goes to its place.
-/

namespace TableProperties.Toml

open Text

/-! ## Names -/

/-- A header as it is written. -/
structure HeaderForm where
  isArray : Bool
  names : List String
  deriving DecidableEq, Repr

/-- Whether a name needs no quotes. -/
def isBareName (s : List Char) : Bool :=
  !s.isEmpty && s.all fun c ↦ c.isAlphanum || c == '_' || c == '-'

/-- Whether a text starts and ends with the same character and is more than that character. -/
def isClosed (s : List Char) : Bool :=
  s.head? == s.getLast? && s.length != 1

mutual

/-- The names in the parts of a header between dots. -/
def headerNames? : List (List Char) → Option (List (List Char))
  | [] => some []
  | part :: rest =>
    let name := trim part
    if (name.head?.map isQuote).getD false then quotedName? name rest
    else if isBareName name then (headerNames? rest).map (name :: ·)
    else none

/-- A quoted name, which goes on behind a dot until it ends with its quote. -/
def quotedName? (name : List Char) : List (List Char) → Option (List (List Char))
  | [] => if isClosed (trim name) then some [inner (trim name)] else none
  | part :: rest =>
    if isClosed (trim name) then (headerNames? (part :: rest)).map (inner (trim name) :: ·)
    else quotedName? (name ++ '.' :: part) rest

end

/-- The names of a header, given the text after its opening brackets. Nothing but white space
follows the closing brackets. -/
def HeaderForm.ofBody? (isArray : Bool) (s : List Char) : Option HeaderForm := do
  let closing := if isArray then [']', ']'] else [']']
  let n := firstOutside closing s
  let parts := splitAt closing s
  if parts.length ≤ n ∨ !(trim (join closing (parts.drop n))).isEmpty then none
  let names ← headerNames? ((join closing (parts.take n)).splitOn '.')
  return ⟨isArray, names.map String.ofList⟩

/-- The header in a line that starts with a bracket. -/
def HeaderForm.ofLine? : List Char → Option HeaderForm
  | '[' :: '[' :: rest => ofBody? true rest
  | '[' :: c :: rest => ofBody? false (c :: rest)
  | _ => none

/-! ## Places -/

/-- A tree with the place to which the next entries belong. -/
structure Tree where
  root : Item := .empty
  place : List Step := []
  /-- The names of the tables that were made only because a header named a table in them. -/
  implicit : List String := []

namespace Tree

/-- What stands at the place. -/
def current (t : Tree) : Item :=
  (t.root.at? t.place).getD .empty

/-- Moves the place by a step. -/
def move (t : Tree) (step : Step) : Tree :=
  { t with place := t.place ++ [step] }

/-- Changes what stands at the place. -/
def change (t : Tree) (f : Item → Item) : Tree :=
  { t with root := t.root.modify f t.place }

/-- Puts a new table, or an array with one table, under a name that is not there yet. -/
def make (t : Tree) (name : String) (isArray : Bool) : Tree :=
  t.change (·.putEntry name (if isArray then .array [.empty] else .empty))

/-- What the last name of a header means if it is there already: a table that was made only on the
way to another one, or an array that gets another table. -/
def reenter (t : Tree) (isArray : Bool) (name : String) (item : Item) : Except Fault Tree :=
  if t.implicit.contains name then
    if isArray then .error .malformed else .ok { t with implicit := t.implicit.erase name }
  else if isArray then
    match item with
    | .array items => .ok (t.change (·.putEntry name (.array (items ++ [.empty]))))
    | item => .error (.notArray item.type)
  else .error (if t.current.document.shown?.isSome then .malformed else .tooLong)

/-- Goes to the entry of a name, which is made if it is missing. In an array the name belongs to the
last item. -/
def enterEntry (t : Tree) (isArray isLast : Bool) (name : String) : Except Fault Tree :=
  let makesArray := isArray && isLast
  match t.current with
  | .table isInline entries =>
    match (Item.table isInline entries).named? name with
    | some item => if isLast then t.reenter isArray name item else .ok t
    | none =>
      let t := if isLast then t else { t with implicit := t.implicit ++ [name] }
      .ok (t.make name makesArray)
  | item =>
    match item.last with
    | .error fault => .error fault
    | .ok (.table isInline entries) =>
      let t := t.move .last
      let isThere := ((Item.table isInline entries).named? name).isSome
      .ok (if isThere then t else t.make name makesArray)
    | .ok part => .error (part.refuseName name)

/-- Goes to the table of one name, in the header of an array of tables to the last table of an
array. -/
def enterName (t : Tree) (isArray isLast : Bool) (name : String) : Except Fault Tree :=
  if name = "" then .error .malformed
  else
    match t.enterEntry isArray isLast name with
    | .error fault => .error fault
    | .ok t =>
      let t := t.move (.entry name)
      if isArray then
        match t.current with
        | .table .. => .ok t
        | item => item.last.map fun _ ↦ t.move .last
      else .ok t

/-- Goes to the table of some names, one after the other. -/
def enterNames (t : Tree) (isArray : Bool) : List String → Except Fault Tree
  | [] => .ok t
  | name :: rest =>
    match t.enterName isArray rest.isEmpty name with
    | .error fault => .error fault
    | .ok t => t.enterNames isArray rest

/-- Goes to the table of a header. -/
def enter (t : Tree) (h : HeaderForm) : Except Fault Tree :=
  { t with place := [] }.enterNames h.isArray h.names

end Tree

end TableProperties.Toml
