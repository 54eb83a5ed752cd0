import TableProperties.Metadata
import TableProperties.Validation

/-!
# Version histories

The versions that the metadata of a table has gone through, and the one that is current. A change
builds on the current version and is appended; going back to an earlier version keeps the later
ones.
-/

namespace TableProperties

/-- All versions of a table's metadata, the oldest first, and the current one. -/
structure History where
  /-- Every version, in the order of creation. -/
  versions : List Metadata
  /-- The version that the next change builds on. -/
  current : Metadata

namespace History

/-- The history of a table that has one version. -/
def start (m : Metadata) : History := ⟨[m], m⟩

/-- Lays properties over the current version and makes the result current. -/
def merge (h : History) (properties : Configuration) : History :=
  let next := h.current.withNewConfiguration properties
  ⟨h.versions ++ [next], next⟩

/-- Validates a batch and merges what is to be stored. A refused batch changes nothing. -/
def commit (h : History) (r : Registry) (batch : Configuration) : Except PropertyError History :=
  (r.validate batch).map h.merge

/-- Makes an earlier version current. -/
def rollback? (h : History) (version : Nat) : Option History :=
  h.versions[version]?.map fun m ↦ { h with current := m }

/-- The newest version. -/
def latest (h : History) : Metadata :=
  h.versions.getLast?.getD h.current

end History

end TableProperties
