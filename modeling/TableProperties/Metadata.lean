import TableProperties.Property.Basic

/-!
# Table metadata

The part of a table's metadata that holds its properties. Metadata is a value: a change gives a
new version and leaves the old one alone.
-/

namespace TableProperties

/-- The identity and the stored properties of a table. -/
structure Metadata where
  /-- The identifier of the table. -/
  id : String
  /-- The stored properties. -/
  configuration : Configuration := .empty
  deriving DecidableEq, Repr

namespace Metadata

/-- The metadata with some properties laid over its configuration. -/
def withNewConfiguration (m : Metadata) (properties : Configuration) : Metadata :=
  { m with configuration := m.configuration.merge properties }

/-- Equality of metadata, for which the order of the properties does not count. -/
def Same (m n : Metadata) : Bool :=
  m.id == n.id && m.configuration.Same n.configuration

/-- The number of different metadata in a list. -/
def countDistinct (versions : List Metadata) : Nat :=
  (versions.foldl (fun seen m ↦ if seen.any (·.Same m) then seen else m :: seen) []).length

@[simp] theorem id_withNewConfiguration (m : Metadata) (properties : Configuration) :
    (m.withNewConfiguration properties).id = m.id := rfl

end Metadata

end TableProperties
