import TableProperties.Toml.Header
import TableProperties.Toml.Lines
import TableProperties.Toml.Value

/-!
# Reading TOML

The table of a text, line by line. A line is a header, an inline table or an entry; other lines have
no effect. A value that goes on takes up the lines that follow.

## Main definitions

* `Reading`: the state between two lines.
* `read`: the table of a text.
-/

namespace TableProperties.Toml

open Text

/-- The state between two lines. -/
structure Reading where
  tree : Tree := {}
  /-- The value that goes on on the next line. -/
  pending : Option Pending := none

namespace Reading

/-- Changes what the next entries belong to. -/
def change (x : Reading) (f : Item → Except Fault AfterEntry) : Except Fault Reading :=
  (f x.tree.current).map fun (item, pending) ↦ ⟨x.tree.change fun _ ↦ item, pending⟩

/-- Whether a line ends the value of which it is a part. The line of an array must not be empty. -/
def ends (text line : List Char) : Except Fault Bool :=
  match text.head? with
  | none => .error .textEnds
  | some '[' =>
    match line.getLast? with
    | none => .error .textEnds
    | some c => .ok (c == ']')
  | some c => .ok (2 < line.length && (line.drop (line.length - 3)).all (· == c))

/-- The next line of a value that goes on. A value that ends here replaces one of the same key. -/
def goOn (x : Reading) (fuel : Nat) (p : Pending) (line : List Char) : Except Fault Reading :=
  let text := p.text ++ line
  match ends text line with
  | .error fault => .error fault
  | .ok true =>
    match readValue fuel text with
    | .error fault => .error fault
    | .ok item => x.change fun table ↦ .ok (table.putEntry p.key item, none)
  | .ok false =>
    let (text, joins) := endLine text
    .ok { x with pending := some { p with text := text, joins := joins } }

/-- A line that starts something new. -/
def startLine (x : Reading) (fuel : Nat) (line : List Char) : Except Fault Reading :=
  match line with
  | '[' :: _ =>
    match HeaderForm.ofLine? line with
    | none => .error .malformed
    | some h => (x.tree.enter h).map fun tree ↦ { x with tree := tree }
  | '\x7b' :: _ =>
    if line.getLast? = some '\x7d' then
      x.change fun table ↦ (readTable fuel line table).map (·, none)
    else .error .malformed
  | _ => if line.contains '=' then x.change (readEntry fuel line) else .ok x

/-- One line. White space at its ends counts only in a string that has a line end. -/
def line (x : Reading) (fuel : Nat) (s : List Char) : Except Fault Reading :=
  match x.pending with
  | none => if (trim s).isEmpty then .ok x else x.startLine fuel (trim s)
  | some p =>
    let s := if p.joins || !p.text.contains '\n' then trim s else s
    if p.joins && s.isEmpty then .ok x else x.goOn fuel p s

/-- The lines of a text, one after the other. -/
def lines (x : Reading) (fuel : Nat) : List (List Char) → Except Fault Reading
  | [] => .ok x
  | s :: rest =>
    match x.line fuel s with
    | .error fault => .error fault
    | .ok x => x.lines fuel rest

end Reading

/-- The document of a text. Values are never nested more deeply than the text is long. -/
def read (s : List Char) : Except Fault Document :=
  match logicalLines s with
  | .error fault => .error fault
  | .ok lines =>
    (Reading.lines {} (2 * s.length + 2) lines).map fun x ↦ x.tree.root.document

end TableProperties.Toml
