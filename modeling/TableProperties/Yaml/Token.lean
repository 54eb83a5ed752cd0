import TableProperties.Yaml.Fault

/-!
# Tokens of YAML

The parts of a YAML text: directives and document markers, the starts and ends of collections, the
marks of entries, keys and values, and scalars with their properties. The start of a block
collection and its end are tokens too, although they are written by indentation alone.
-/

namespace TableProperties.Yaml

/-- A directive. -/
inductive Directive where
  /-- The version of the language. -/
  | version (major : Nat)
  /-- A handle that abbreviates the start of tags. -/
  | tag (handle start : List Char)
  /-- Any other directive, which has no effect. -/
  | other
  deriving DecidableEq, Repr

/-- A part of a text. -/
inductive Token where
  | directive (d : Directive)
  | documentStart
  | documentEnd
  | blockSequenceStart
  | blockMappingStart
  | blockEnd
  | flowSequenceStart
  | flowSequenceEnd
  | flowMappingStart
  | flowMappingEnd
  | blockEntry
  | flowEntry
  | key
  | value
  | alias (name : List Char)
  | anchor (name : List Char)
  /-- A tag: a handle that is to be expanded, and the text after it; without a handle the text is
  the whole tag. -/
  | tag (handle : Option (List Char)) (suffix : List Char)
  /-- A scalar; it is plain if it has no quotes and no block form. -/
  | scalar (plain : Bool) (text : List Char)
  /-- The place where a text stops being YAML. -/
  | fault (f : Fault)
  deriving DecidableEq, Repr

end TableProperties.Yaml
