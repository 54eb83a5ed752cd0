import TableProperties.Files.Tree
import TableProperties.PropertiesFile.Format
import TableProperties.Text.Newlines
import TableProperties.Text.Utf8

/-!
# Loading properties files

The properties of a file: its text is read in the format of its suffix, and the mapping that it
holds is flattened. The checks have a fixed order, and the first that fails decides the error: the
file must exist and be readable as text before its suffix is looked at.

## Main definitions

* `LoadFault`: everything that can go wrong.
* `Workspace.load`: the properties of a file.
-/

namespace TableProperties

/-- Why a file has no properties. -/
inductive LoadFault where
  /-- There is no such file. -/
  | missing (path : String)
  /-- The file cannot be read. -/
  | file (fault : FileFault)
  /-- The file is no text. -/
  | encoding (fault : Text.Utf8.Fault)
  /-- No format has the suffix of the path. -/
  | unsupported (suffix : String)
  /-- The text does not read. -/
  | text (fault : SyntaxFault)
  /-- The text holds no mapping. -/
  | notMapping
  /-- The mapping cannot be flattened. -/
  | flatten (fault : FlattenFault)
  deriving DecidableEq, Repr

/-- The message for a suffix that no format has. -/
def unsupportedMessage (suffix : String) : String :=
  "Unsupported properties file type: " ++ suffix ++
    ", supported extensions: .yaml, .yml, .json, .toml"

/-- The message of a fault. -/
def LoadFault.message : LoadFault → String
  | .missing path => "Properties file not found: " ++ path
  | .file fault => fault.message
  | .encoding fault => fault.message
  | .unsupported suffix => unsupportedMessage suffix
  | .text fault => fault.message
  | .notMapping => "Properties file must contain a mapping at the top level"
  | .flatten fault => fault.message

/-- The properties of a document, which must be a mapping. -/
def Document.properties : Document → Except LoadFault (Mapping String)
  | .map entries => (flatten entries).mapError .flatten
  | _ => .error .notMapping

/-- The text of a file of the given bytes, with unified line ends. -/
def textOfBytes (bytes : ByteArray) : Except LoadFault String :=
  match Text.Utf8.decode bytes with
  | .error fault => .error (.encoding fault)
  | .ok s => .ok (String.ofList (Text.unifyNewlines s.toList))

/-- The properties of a text in the format of a path. -/
def propertiesOfText (p : Path) (s : String) : Except LoadFault (Mapping String) :=
  match FileFormat.ofSuffix? p.suffix with
  | none => .error (.unsupported p.suffix)
  | some format =>
    match format.read s with
    | .error fault => .error (.text fault)
    | .ok d => d.properties

/-- The properties of a file of the given bytes. -/
def propertiesOfBytes (p : Path) (bytes : ByteArray) : Except LoadFault (Mapping String) :=
  match textOfBytes bytes with
  | .error fault => .error fault
  | .ok s => propertiesOfText p s

namespace Workspace

/-- The bytes of a file. -/
def readBytes (w : Workspace) (p : Path) : Except LoadFault ByteArray :=
  match w.has p with
  | .error fault => .error (.file fault)
  | .ok true => (w.read p).mapError .file
  | .ok false => .error (.missing p.text)

/-- The text of a file, with unified line ends. -/
def readText (w : Workspace) (p : Path) : Except LoadFault String :=
  match w.readBytes p with
  | .error fault => .error fault
  | .ok bytes => textOfBytes bytes

/-- The properties of a file. -/
def load (w : Workspace) (p : Path) : Except LoadFault (Mapping String) :=
  match w.readBytes p with
  | .error fault => .error fault
  | .ok bytes => propertiesOfBytes p bytes

end Workspace

end TableProperties
