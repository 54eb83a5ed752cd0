import TableProperties.Registry

/-!
# Validation

Checks the properties that a change of a table is about to write. A key in the reserved namespace
must name a registered, editable property and carry a value that the property accepts; it is stored
under the canonical key. Any other key is stored in lower case with its value as it is.

Each entry is judged by itself, and the first entry that is refused decides the outcome of the
whole batch.

## Main definitions

* `judge`: the verdict on one entry.
* `validate`: the outcome for a batch of entries.
* `events`: what is logged on the way.
-/

namespace TableProperties

/-- The start of the keys that only registered properties may use, in lower case. -/
def reservedPrefix : String := "delta."

/-- Whether a key in lower case belongs to the reserved namespace. -/
def isReserved (normalized : String) : Bool :=
  reservedPrefix.toList.isPrefixOf normalized.toList

/-- What becomes of one entry of a batch. -/
inductive Verdict where
  /-- The entry is stored under a key outside the reserved namespace. -/
  | passThrough (key : String)
  /-- The entry is stored under the canonical key of a property. -/
  | store (key : String)
  /-- The batch is refused. -/
  | refuse (error : PropertyError)

namespace Registry

/-- The verdict on one entry. -/
def judge (r : Registry) (key : String) (value : Option String) : Verdict :=
  let normalized := Text.lowercase key
  if isReserved normalized then
    match r.lookup normalized with
    | none => .refuse (.unknown key)
    | some p =>
      if p.editable then
        match p.check value with
        | .ok _ => .store p.key
        | .error e => .refuse e
      else .refuse (.notEditable key)
  else .passThrough normalized

/-- Validates the entries that remain, given the properties that have been accepted so far. -/
def validateFrom (r : Registry) (accepted : Configuration) :
    List (String × Option String) → Except PropertyError Configuration
  | [] => .ok accepted
  | (key, value) :: rest =>
    match r.judge key value with
    | .passThrough key => r.validateFrom (accepted.insert key value) rest
    | .store key => r.validateFrom (accepted.insert key value) rest
    | .refuse e => .error e

/-- The properties of a batch under the keys by which they are stored, or the error of the first
entry that is refused. -/
def validate (r : Registry) (batch : Configuration) : Except PropertyError Configuration :=
  r.validateFrom .empty batch.entries

/-- What a refusal reports to the log. -/
def refusalEvents : PropertyError → List LogEvent
  | .unknown key => [.refusedUnknown key]
  | .notEditable key => [.refusedNotEditable key]
  | _ => []

/-- What validating some entries reports to the log. -/
def eventsOf (r : Registry) : List (String × Option String) → List LogEvent
  | [] => []
  | (key, value) :: rest =>
    match r.judge key value with
    | .passThrough key => .passedThrough key :: r.eventsOf rest
    | .store _ => r.eventsOf rest
    | .refuse e => refusalEvents e

/-- What validating a batch reports to the log. -/
def validationEvents (r : Registry) (batch : Configuration) : List LogEvent :=
  r.eventsOf batch.entries

end Registry

end TableProperties
