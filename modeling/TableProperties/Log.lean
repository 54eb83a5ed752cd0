import TableProperties.Integer

/-!
# The log

The events that are worth a line in a debug log, with the name of the part that reports each and
its message. An operation that logs returns its events; nothing is written here.
-/

namespace TableProperties

/-- Something that is reported to the log. -/
inductive LogEvent where
  /-- A registry was built, with so many properties. -/
  | registryBuilt (size : Nat)
  /-- A key outside the reserved namespace was accepted as it is. -/
  | passedThrough (key : String)
  /-- A key of the reserved namespace was refused because no property has it. -/
  | refusedUnknown (key : String)
  /-- A key was refused because its property is not editable. -/
  | refusedNotEditable (key : String)
  /-- A properties file is about to be read. -/
  | loading (path : String)
  deriving DecidableEq, Repr

namespace LogEvent

/-- The part of the program that reports an event. -/
def source : LogEvent → String
  | registryBuilt _ => "tableconf.registry"
  | passedThrough _ | refusedUnknown _ | refusedNotEditable _ => "tableconf.validation"
  | loading _ => "tableconf.cli"

/-- The message of an event. -/
def message : LogEvent → String
  | registryBuilt size =>
    "Built table property registry with " ++ Integer.decimalText size ++ " properties"
  | passedThrough key => "Passing through unvalidated table property " ++ key
  | refusedUnknown key => "Rejecting unknown table property " ++ key
  | refusedNotEditable key => "Rejecting change to non-editable table property " ++ key
  | loading path => "Loading table properties from " ++ path

/-- The level of an event; all of them are details. -/
def level : LogEvent → String
  | _ => "DEBUG"

/-- An event as one line of a log. -/
def line (event : LogEvent) : String :=
  event.level ++ " " ++ event.source ++ ": " ++ event.message

end LogEvent

end TableProperties
