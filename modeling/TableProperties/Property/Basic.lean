import TableProperties.Mapping
import TableProperties.Property.Error

/-!
# Table properties

A property describes one key of a table's configuration: how its raw value is read, which values
are accepted, what stands in for a missing value, and whether users may change it.

## Main definitions

* `Configuration`: the stored properties of a table. A stored value may be absent, which hides the
  default of its property.
* `Property.check`: reads a raw value and accepts or refuses it.
* `Property.read`: the value of a property in a configuration.
-/

namespace TableProperties

/-- The raw properties of a table. -/
abbrev Configuration := Mapping (Option String)

/-- The description of one table property. -/
structure Property where
  /-- The canonical key, with its prefix and casing. -/
  key : String
  /-- The raw value used when the key is not configured. -/
  fallback : Option String
  /-- Turns a raw value into a typed one. -/
  reader : Reader
  /-- Whether a typed value is acceptable. -/
  accepts : Value → Bool
  /-- A description of the acceptable values, shown with an unacceptable one. -/
  help : String
  /-- Whether the property may be changed after the table is created. -/
  editable : Bool
  /-- Whether the property may be left without a value. -/
  optional : Bool := false

namespace Property

/-- The error for a raw value that cannot be used. -/
def invalid (p : Property) (raw : Option String) (cause : Option Rejection) : PropertyError :=
  .invalid p.key raw p.help cause

/-- Reads a raw value and checks that it is acceptable. -/
def check (p : Property) (raw : Option String) : Except PropertyError Value :=
  match p.reader raw with
  | .error rejection => .error (p.invalid raw (some rejection))
  | .ok value => if p.accepts value then .ok value else .error (p.invalid raw none)

/-- The raw value of a property in a configuration, or its default. -/
def raw (p : Property) (configuration : Configuration) : Option String :=
  (configuration.get? p.key).getD p.fallback

/-- The typed value of a property in a configuration. -/
def read (p : Property) (configuration : Configuration) : Except PropertyError Value :=
  match p.raw configuration with
  | some raw => p.check (some raw)
  | none => if p.optional then .ok .absent else .error (.missing p.key)

/-- A check succeeds exactly when the raw value reads as an acceptable value. -/
theorem check_eq_ok_iff {p : Property} {raw : Option String} {value : Value} :
    p.check raw = .ok value ↔ p.reader raw = .ok value ∧ p.accepts value = true := by
  unfold check
  cases p.reader raw with
  | error rejection => simp
  | ok found => by_cases h : p.accepts found = true <;> grind

end Property

end TableProperties
