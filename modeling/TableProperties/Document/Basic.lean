import TableProperties.Document.Scalar
import TableProperties.Mapping

/-!
# Documents

What reading a data file gives, whichever format it has: scalars, lists and mappings, and the few
further collections that one of the formats knows. A document can be shown as text, which is how a
list becomes the value of a property.
-/

namespace TableProperties

/-- The place of the message for a text that does not follow the grammar of its format. The wording
of such a message is not fixed. -/
def grammarMessage : String := "<parser message>"

/-- A tree of data. -/
inductive Document where
  /-- A value without parts. -/
  | scalar (s : Scalar)
  /-- A list. -/
  | list (items : List Document)
  /-- A list of pairs, the entries of a mapping whose order matters. -/
  | pairs (items : List (Document × Document))
  /-- A set. -/
  | set (items : List Scalar)
  /-- A mapping, its entries in insertion order. -/
  | map (entries : List (Scalar × Document))
  /-- A collection inside itself; the flag tells a mapping from a list. -/
  | loop (isMap : Bool)

namespace Document

/-- The mapping of some entries: of repeated keys the last value wins, at the first position. -/
def ofEntries (entries : List (Scalar × Document)) : Document :=
  .map (Association.ofPairs Scalar.SameKey entries)

/-- Puts shown parts between brackets, separated by commas. -/
def bracketed (opening closing : Char) (parts : List (List Char)) : List Char :=
  opening :: (List.intercalate [',', ' '] parts ++ [closing])

mutual

/-- How a document is shown, if all its integers are short enough. -/
def shown? : Document → Option (List Char)
  | scalar s => s.shown?
  | list items => (shownItems? items).map (bracketed '[' ']')
  | pairs items => (shownPairs? items).map (bracketed '[' ']')
  | set [] => some "set()".toList
  | set items => (items.mapM Scalar.shown?).map (bracketed '\x7b' '\x7d')
  | map entries => (shownEntries? entries).map (bracketed '\x7b' '\x7d')
  | loop isMap => some (if isMap then "\x7b...\x7d".toList else "[...]".toList)

/-- The items of a list, each as it is shown. -/
def shownItems? : List Document → Option (List (List Char))
  | [] => some []
  | d :: rest => do
    let first ← d.shown?
    let others ← shownItems? rest
    return first :: others

/-- The items of a list of pairs, each as it is shown. -/
def shownPairs? : List (Document × Document) → Option (List (List Char))
  | [] => some []
  | (k, v) :: rest => do
    let key ← k.shown?
    let value ← v.shown?
    let others ← shownPairs? rest
    return bracketed '(' ')' [key, value] :: others

/-- The entries of a mapping, each as it is shown. -/
def shownEntries? : List (Scalar × Document) → Option (List (List Char))
  | [] => some []
  | (k, v) :: rest => do
    let key ← k.shown?
    let value ← v.shown?
    let others ← shownEntries? rest
    return (key ++ ':' :: ' ' :: value) :: others

end

/-- The text of a document: that of a scalar, or how a collection is shown. -/
def text? : Document → Option (List Char)
  | scalar s => s.text?
  | d => d.shown?

end Document

end TableProperties
