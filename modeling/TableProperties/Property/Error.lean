import TableProperties.Property.Value

/-!
# Errors about properties

What may go wrong when properties are read, validated or loaded, with the message of each case.
-/

namespace TableProperties

/-- An error about table properties. -/
inductive PropertyError where
  /-- A key of the reserved namespace names no registered property. -/
  | unknown (key : String)
  /-- A property may not be changed after the table is created. -/
  | notEditable (key : String)
  /-- A raw value does not read, or reads as a value that is not accepted. In the first case the
  rejection is recorded. -/
  | invalid (key : String) (value : Option String) (help : String) (cause : Option Rejection)
  /-- A required property has neither a value nor a default. -/
  | missing (key : String)
  /-- A properties file cannot be read. -/
  | file (path reason : String)
  deriving DecidableEq, Repr

/-- The message of an error. -/
def PropertyError.message : PropertyError → String
  | .unknown key => "Unknown configuration was specified: " ++ key
  | .notEditable key => "The table property " ++ key ++ " cannot be modified"
  | .invalid key value help _ =>
    "Invalid value for table property '" ++ key ++ "': '" ++ value.getD "None" ++ "'." ++
      (if help = "" then "" else " " ++ key ++ " " ++ help)
  | .missing key => "No value or default for table property: " ++ key
  | .file path reason => "Cannot load table properties from " ++ path ++ ": " ++ reason

end TableProperties
