import TableProperties.Property.Basic

/-!
# The built-in properties

The ten properties that every table knows, in the order in which they are listed.
-/

namespace TableProperties.Catalog

/-! ## Conditions on values -/

/-- Every value. -/
def anyValue : Value → Bool := fun _ ↦ true

/-- Integers above zero. -/
def positive : Value → Bool
  | .int n => decide (0 < n)
  | _ => false

/-- Integers from zero on. -/
def nonNegative : Value → Bool
  | .int n => decide (0 ≤ n)
  | _ => false

/-! ## The properties -/

/-- What an interval property accepts. -/
def intervalHelp : String :=
  "needs to be provided as a calendar interval such as '2 weeks'. Months and years are not " ++
    "accepted. You may specify '365 days' for a year instead."

/-- The shortest time for which deleted data files are kept before they are removed. -/
def tombstoneRetention : Property where
  key := "delta.deletedFileRetentionDuration"
  fallback := some "interval 1 week"
  reader := .interval
  accepts := nonNegative
  help := intervalHelp
  editable := true

/-- A checkpoint is suggested each time the log has grown by this many commits. -/
def checkpointInterval : Property where
  key := "delta.checkpointInterval"
  fallback := some "10"
  reader := .int32
  accepts := positive
  help := "needs to be a positive integer."
  editable := true

/-- The shortest time for which log and checkpoint files are kept. -/
def logRetention : Property where
  key := "delta.logRetentionDuration"
  fallback := some "interval 30 days"
  reader := .interval
  accepts := anyValue
  help := intervalHelp
  editable := true

/-- Whether expired log files are removed. -/
def expiredLogCleanup : Property where
  key := "delta.enableExpiredLogCleanup"
  fallback := some "true"
  reader := .bool
  accepts := anyValue
  help := "needs to be a boolean."
  editable := true

/-- Whether each commit carries a timestamp that grows from commit to commit. -/
def inCommitTimestamps : Property where
  key := "delta.enableInCommitTimestamps"
  fallback := some "false"
  reader := .bool
  accepts := anyValue
  help := "needs to be a boolean."
  editable := true

/-- The version of the commit that enabled in-commit timestamps. -/
def inCommitTimestampVersion : Property where
  key := "delta.inCommitTimestampEnablementVersion"
  fallback := none
  reader := .optionalInt64
  accepts := anyValue
  help := "needs to be a long."
  editable := true
  optional := true

/-- The timestamp of the commit that enabled in-commit timestamps. -/
def inCommitTimestampTime : Property where
  key := "delta.inCommitTimestampEnablementTimestamp"
  fallback := none
  reader := .optionalInt64
  accepts := anyValue
  help := "needs to be a long."
  editable := true
  optional := true

/-- How physical column names are resolved. -/
def columnMappingMode : Property where
  key := "delta.columnMapping.mode"
  fallback := some "none"
  reader := .mode
  accepts := anyValue
  help := "needs to be one of none, id, name."
  editable := true

/-- The greatest column identifier in use. It is assigned when columns are added, never by users. -/
def columnMappingMaxId : Property where
  key := "delta.columnMapping.maxColumnId"
  fallback := some "0"
  reader := .int64
  accepts := nonNegative
  help := "needs to be a non-negative long."
  editable := false

/-- Whether the table is kept readable as an Iceberg table. -/
def icebergCompatV2 : Property where
  key := "delta.enableIcebergCompatV2"
  fallback := some "false"
  reader := .bool
  accepts := anyValue
  help := "needs to be a boolean."
  editable := true

/-- Every built-in property, in the order in which they are listed. -/
def all : List Property := [
  tombstoneRetention, checkpointInterval, logRetention, expiredLogCleanup, inCommitTimestamps,
  inCommitTimestampVersion, inCommitTimestampTime, columnMappingMode, columnMappingMaxId,
  icebergCompatV2]

end TableProperties.Catalog
