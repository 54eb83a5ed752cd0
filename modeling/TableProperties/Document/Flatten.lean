import TableProperties.Document.Basic

/-!
# Flattening

A nested mapping read from a file becomes a flat mapping of properties: the keys along the way to a
leaf are joined by dots, and the leaf is turned into text. A later leaf replaces an earlier one with
the same joined key and takes its position.

## Main definitions

* `Document.property`: the text of a leaf.
* `flatten`: the properties of a mapping.
-/

namespace TableProperties

/-- Why a document has no properties. -/
inductive FlattenFault where
  /-- A leaf is null. -/
  | nullValue
  /-- A key or a leaf holds an integer with too many digits. -/
  | tooLong
  /-- A leaf is a point in time whose distance from universal time is a day or more. -/
  | offset
  /-- A mapping contains itself. -/
  | endless
  deriving DecidableEq, Repr

/-- The message for a document without properties. -/
def FlattenFault.message : FlattenFault → String
  | .nullValue => "Table property values cannot be null"
  | .tooLong => Integer.tooLongToWriteMessage
  | .offset => offsetRangeMessage ++ "."
  | .endless => "maximum recursion depth exceeded in comparison"

/-- A text that may be missing because an integer in it is too long. -/
def writable : Option (List Char) → Except FlattenFault String
  | some s => .ok (String.ofList s)
  | none => .error .tooLong

/-- The text of a leaf. -/
def Document.property : Document → Except FlattenFault String
  | .scalar .null => .error .nullValue
  | .scalar (.bool b) => .ok (if b then "true" else "false")
  | .scalar (.dateTime t) => if t.hasOffsetInRange then writable t.text else .error .offset
  | .loop true => .error .endless
  | d => writable d.text?

mutual

/-- The properties under a joined key: those of a mapping, or the single one of a leaf. -/
def flattenAt (key : String) : Document → Except FlattenFault (Mapping String)
  | .map entries => flattenEntries (key ++ ".") .empty entries
  | leaf => leaf.property.map fun value ↦ Mapping.empty.insert key value

/-- Lays the properties of some entries, their keys starting with `start`, over those found
before. -/
def flattenEntries (start : String) (found : Mapping String) :
    List (Scalar × Document) → Except FlattenFault (Mapping String)
  | [] => .ok found
  | (key, d) :: rest =>
    match writable key.text? with
    | .error fault => .error fault
    | .ok key =>
      match flattenAt (start ++ key) d with
      | .error fault => .error fault
      | .ok properties => flattenEntries start (found.merge properties) rest

end

/-- The properties of the entries of a file. -/
def flatten (entries : List (Scalar × Document)) : Except FlattenFault (Mapping String) :=
  flattenEntries "" .empty entries

end TableProperties
