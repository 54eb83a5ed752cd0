import TableProperties.Log
import TableProperties.Property.Catalog

/-!
# Registries

A registry holds properties under their keys in lower case, so that a property is found however
its key is spelled. No two properties of a registry have keys that agree in lower case; building
one fails on the first property that repeats an earlier key.

## Main definitions

* `Registry`: the properties, with the invariant that ties each entry to its key.
* `Registry.build`: the registry of a list of properties.
* `Registry.lookup`: the property of a key in lower case; `Registry.fetch` reports a missing key.
-/

namespace TableProperties

/-- Properties under their keys in lower case. -/
structure Registry where
  /-- The entries, in the order of registration. -/
  mapping : Mapping Property
  /-- Each property stands under its own key in lower case. -/
  key_eq : ∀ entry ∈ mapping.entries, entry.1 = Text.lowercase entry.2.key

/-- Two properties have the same key, ignoring case. -/
structure DuplicateKey where
  /-- The key of the later one. -/
  key : String
  deriving DecidableEq, Repr

/-- The message for a repeated key. -/
def DuplicateKey.message (e : DuplicateKey) : String :=
  "Table property \"" ++ e.key ++ "\" already registered."

/-- No property is registered under a key. -/
structure MissingKey where
  /-- The key that was asked for. -/
  key : String
  deriving DecidableEq, Repr

/-- The message for a missing key. -/
def MissingKey.message (e : MissingKey) : String :=
  Text.quote e.key

namespace Registry

@[ext] theorem ext {r s : Registry} (h : r.mapping = s.mapping) : r = s := by
  cases r; cases s; cases h; rfl

/-- The registry without properties. -/
def empty : Registry where
  mapping := .empty
  key_eq := by simp

/-- The property registered under a key, which must be in lower case to be found. -/
def lookup (r : Registry) (key : String) : Option Property :=
  r.mapping.get? key

/-- The property registered under a key, which must be in lower case, or the report that there is
none. -/
def fetch (r : Registry) (key : String) : Except MissingKey Property :=
  match r.mapping.get? key with
  | some p => .ok p
  | none => .error ⟨key⟩

/-- Whether a property can be fetched under a key. -/
def contains (r : Registry) (key : String) : Bool :=
  (r.fetch key).toBool

/-- The registered keys, in the order of registration. -/
def keys (r : Registry) : List String :=
  r.mapping.keys

/-- The number of registered properties. -/
def size (r : Registry) : Nat :=
  r.mapping.size

private theorem mem_putEntry {α : Type u} {key : String} {value : α}
    {entries : List (String × α)} {e : String × α}
    (h : e ∈ Mapping.putEntry key value entries) : e = (key, value) ∨ e ∈ entries := by
  induction entries with
  | nil => simpa [Mapping.putEntry_nil] using h
  | cons entry rest ih =>
    rw [Mapping.putEntry_cons] at h
    split at h
    · rcases List.mem_cons.1 h with rfl | h
      · exact .inl rfl
      · exact .inr (List.mem_cons_of_mem _ h)
    · rcases List.mem_cons.1 h with rfl | h
      · exact .inr List.mem_cons_self
      · rcases ih h with rfl | h
        · exact .inl rfl
        · exact .inr (List.mem_cons_of_mem _ h)

/-- Registers one more property, unless its key is taken. -/
def add (r : Registry) (p : Property) : Except DuplicateKey Registry :=
  let key := Text.lowercase p.key
  if r.mapping.contains key then .error ⟨p.key⟩
  else .ok {
    mapping := r.mapping.insert key p
    key_eq := fun entry h ↦ by
      rcases mem_putEntry h with rfl | h
      · rfl
      · exact r.key_eq entry h }

/-- The registry of a list of properties. -/
def build (properties : List Property) : Except DuplicateKey Registry :=
  properties.foldlM add empty

@[simp] theorem build_nil : build [] = .ok empty := rfl

/-- Building adds the last property to the registry of the others. -/
theorem build_append_singleton (ps : List Property) (p : Property) :
    build (ps ++ [p]) = (build ps).bind (·.add p) := by
  unfold build
  rw [List.foldlM_append]
  cases h : List.foldlM add empty ps with
  | error e => rfl
  | ok r =>
    change List.foldlM add r [p] = add r p
    rw [List.foldlM_cons]
    cases add r p <;> rfl

/-- The registry of the built-in properties. -/
def builtin : Registry :=
  (build Catalog.all).toOption.getD empty

/-- What building a registry reports. -/
def builtEvent (r : Registry) : LogEvent :=
  .registryBuilt r.size

/-- The text that identifies a registry by its keys. -/
def describe (r : Registry) : String :=
  "PropertyRegistry([" ++ String.intercalate ", " (r.keys.map Text.quote) ++ "])"

end Registry

end TableProperties
