import TableProperties.PropertiesFile.Load

/-!
# Saving properties files

Properties are written in the format of the suffix of a path, into directories that are made where
they are missing. The directories are made before the suffix is looked at, and they stay when the
file cannot be written.
-/

namespace TableProperties

/-- Why properties are not saved. -/
inductive SaveFault where
  /-- A directory cannot be made, or the file cannot be written. -/
  | file (fault : FileFault)
  /-- No format has the suffix of the path. -/
  | unsupported (suffix : String)
  deriving DecidableEq, Repr

/-- The message of a fault. -/
def SaveFault.message : SaveFault → String
  | .file fault => fault.message
  | .unsupported suffix => unsupportedMessage suffix

namespace Workspace

/-- Writes properties to a file in a directory that exists. -/
def writeProperties (w : Workspace) (p : Path) (properties : Mapping String) :
    Except SaveFault Workspace :=
  match FileFormat.ofSuffix? p.suffix with
  | none => .error (.unsupported p.suffix)
  | some format =>
    (w.write p (Text.Utf8.encode (format.write properties))).mapError .file

/-- Saves properties to a file. The first part of the result is what is there afterwards. -/
def save (w : Workspace) (p : Path) (properties : Mapping String) :
    Workspace × Except SaveFault Unit :=
  match w.makeDirectories p.parent with
  | (w, .error fault) => (w, .error (.file fault))
  | (w, .ok ()) =>
    match w.writeProperties p properties with
    | .error fault => (w, .error fault)
    | .ok w => (w, .ok ())

end Workspace

end TableProperties
