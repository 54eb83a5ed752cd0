import TableProperties.Document.Flatten
import TableProperties.Files.Path
import TableProperties.Json.Printer
import TableProperties.Json.Reader
import TableProperties.Toml.Printer
import TableProperties.Toml.Reader
import TableProperties.Yaml.Printer
import TableProperties.Yaml.Reader

/-!
# Formats of properties files

The suffix of a path decides in which format a file is read and written. All formats are read into
documents, and properties are written in all of them.
-/

namespace TableProperties

/-- A format of properties files. -/
inductive FileFormat where
  | yaml
  | json
  | toml
  deriving DecidableEq, Repr

/-- Why the text of a file has no document. -/
inductive SyntaxFault where
  | yaml (fault : Yaml.Fault)
  | json (fault : Json.Fault)
  | toml (fault : Toml.Fault)
  deriving DecidableEq, Repr

namespace FileFormat

/-- The format of a suffix in lower case. -/
def ofSuffix? (suffix : String) : Option FileFormat :=
  if suffix = ".yaml" ∨ suffix = ".yml" then some .yaml
  else if suffix = ".json" then some .json
  else if suffix = ".toml" then some .toml
  else none

/-- The document of a text. A JSON text must not start with a byte order mark. -/
def read : FileFormat → String → Except SyntaxFault Document
  | yaml, s => (Yaml.read s).mapError .yaml
  | json, s =>
    if s.toList.head? = some Text.Utf8.byteOrderMark then .error (.json .malformed)
    else (Json.read s.toList).mapError .json
  | toml, s => (Toml.read s.toList).mapError .toml

/-- The text of some properties. -/
def write (format : FileFormat) (properties : Mapping String) : String :=
  let entries := properties.entries.map fun (key, value) ↦ (key.toList, value.toList)
  String.ofList <|
    match format with
    | yaml => Yaml.write entries
    | json => Json.object .plain (properties.entries.map fun (key, value) ↦ (key, .text value))
    | toml => Toml.write entries

end FileFormat

/-- The message of a fault in a text. -/
def SyntaxFault.message : SyntaxFault → String
  | .yaml fault => fault.message
  | .json .malformed => grammarMessage
  | .json (.tooManyDigits count) => Integer.tooManyDigitsMessage count
  | .toml fault => fault.message

end TableProperties
