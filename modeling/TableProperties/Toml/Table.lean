import TableProperties.Toml.Fault
import TableProperties.Toml.Text.Split

/-!
# Tables

A TOML text is read into a tree of tables, arrays and values without parts. A place in the tree is
reached by steps, each to an entry of a table or to the last item of an array.

## Main definitions

* `Item`: a tree; `Item.document` is the document that it stands for.
* `Step` and `Item.at?`, `Item.modify`.
* `Item.insert`: adds an entry below nested tables that are made where they are missing.
-/

namespace TableProperties.Toml

/-- A value. -/
inductive Item where
  /-- A value without parts. -/
  | leaf (s : Scalar)
  | array (items : List Item)
  /-- A table; the flag tells whether it is written between braces. -/
  | table (isInline : Bool) (entries : List (String × Item))

namespace Item

/-- The table without entries. -/
def empty : Item := table false []

mutual

/-- The document of a value. -/
def document : Item → Document
  | leaf s => .scalar s
  | array items => .list (documents items)
  | table _ entries => .map (documentsOf entries)

/-- The documents of some values. -/
def documents : List Item → List Document
  | [] => []
  | item :: rest => item.document :: documents rest

/-- The documents of some entries. -/
def documentsOf : List (String × Item) → List (Scalar × Document)
  | [] => []
  | (key, item) :: rest => (.text key, item.document) :: documentsOf rest

end

/-- The type of a value. -/
def type : Item → ValueType
  | leaf (.bool _) => .bool
  | leaf (.int _) => .int
  | leaf (.float _) => .float
  | leaf (.date _) => .date
  | leaf (.time _) => .time
  | leaf (.dateTime _) => .dateTime
  | leaf _ => .str
  | array _ => .array
  | table isInline _ => if isInline then .inlineTable else .table

/-! ## Entries -/

/-- The entry of a table. -/
def named? (key : String) : Item → Option Item
  | table _ entries => entries.lookup key
  | _ => none

/-- Puts an entry into a table. -/
def putEntry (item : Item) (key : String) (value : Item) : Item :=
  match item with
  | table isInline entries => table isInline (Association.put (· == ·) key value entries)
  | other => other

/-- The fault of looking for a name in a value that is no table. -/
def refuseName (name : String) : Item → Fault
  | array _ => .nameOfArray
  | leaf (.text s) => if occurrences name.toList s.toList ≠ 0 then .nameOfString else .putIntoString
  | item => .noNames item.type

/-- The last part of a value: the last item of an array, the last character of a string. A table has
none. -/
def last : Item → Except Fault Item
  | array items =>
    match items.getLast? with
    | some item => .ok item
    | none => .error .listEnds
  | leaf (.text s) =>
    match s.toList.getLast? with
    | some c => .ok (leaf (.text (String.singleton c)))
    | none => .error .textEnds
  | item => .error (.noParts item.type)

/-! ## Places -/

end Item

/-- One step into a tree. -/
inductive Step where
  /-- To the entry of a table. -/
  | entry (key : String)
  /-- To the last part of another value. -/
  | last
  deriving DecidableEq, Repr

namespace Item

/-- The part of a tree that one step leads to. -/
def child? (item : Item) : Step → Option Item
  | .entry key => item.named? key
  | .last => item.last.toOption

/-- Replaces the part of a tree that one step leads to. -/
def putChild (item : Item) (step : Step) (child : Item) : Item :=
  match step, item with
  | .entry key, item => item.putEntry key child
  | .last, array items => array (items.dropLast ++ [child])
  | .last, item => item

/-- The part of a tree at a place. -/
def at? (item : Item) : List Step → Option Item
  | [] => some item
  | step :: rest => (item.child? step).bind fun child ↦ child.at? rest

/-- Changes the part of a tree at a place; nothing changes if there is no such place. -/
def modify (f : Item → Item) (item : Item) : List Step → Item
  | [] => f item
  | step :: rest =>
    match item.child? step with
    | some child => item.putChild step (child.modify f rest)
    | none => item

/-! ## Insertion -/

/-- Makes tables inside each other that are missing; the names lead from the outermost one inwards,
and each must be that of a table. -/
def reach (item : Item) : List String → Except Fault Item
  | [] => .ok item
  | name :: names =>
    match item with
    | table isInline entries =>
      (((table isInline entries).named? name).getD empty |>.reach names).map fun child ↦
        (table isInline entries).putEntry name child
    | item => .error (item.refuseName name)

/-- Adds an entry, which must be new, to a table below others. -/
def insert (item : Item) (names : List String) (key : String) (value : Item) : Option Item :=
  let place := names.map Step.entry
  match item.at? place with
  | some (table isInline entries) =>
    if ((table isInline entries).named? key).isSome then none
    else some (item.modify (·.putEntry key value) place)
  | _ => none

end Item

end TableProperties.Toml
