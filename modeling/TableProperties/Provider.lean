import TableProperties.Validation

/-!
# Registry providers

A provider is the place from which the registry in force is taken. It builds the built-in registry
when a registry is first needed and keeps it. Registries can be put over it, the last one put being
in force, and dropping them brings the built-in one back.
-/

namespace TableProperties

/-- Where the registry in force comes from. -/
structure Provider where
  /-- Whether the built-in registry has been built. -/
  isBuilt : Bool := false
  /-- The registries put over the built-in one, the last one first. -/
  overrides : List Registry := []

namespace Provider

/-- A provider that has not been used. -/
def fresh : Provider := {}

/-- The registry in force. -/
def registry (p : Provider) : Registry :=
  p.overrides.head?.getD Registry.builtin

/-- Whether the built-in registry is in force. -/
def isBuiltin (p : Provider) : Bool :=
  p.overrides.isEmpty

/-- The provider after its registry has been taken. -/
def used (p : Provider) : Provider :=
  if p.overrides.isEmpty then { p with isBuilt := true } else p

/-- What taking the registry reports to the log: the built-in one is built the first time. -/
def useEvents (p : Provider) : List LogEvent :=
  if p.overrides.isEmpty && !p.isBuilt then [Registry.builtin.builtEvent] else []

/-- Puts a registry over the one in force. -/
def override (p : Provider) (r : Registry) : Provider :=
  { p with overrides := r :: p.overrides }

/-- Drops all registries that were put over the built-in one. -/
def reset (p : Provider) : Provider :=
  { p with overrides := [] }

@[simp] theorem registry_override (p : Provider) (r : Registry) :
    (p.override r).registry = r := rfl

theorem registry_of_overrides_eq_nil {p : Provider} (h : p.overrides = []) :
    p.registry = Registry.builtin := by
  rw [registry, h]
  exact Option.getD_none

@[simp] theorem registry_reset (p : Provider) : p.reset.registry = Registry.builtin :=
  registry_of_overrides_eq_nil rfl

@[simp] theorem overrides_used (p : Provider) : p.used.overrides = p.overrides := by
  unfold used
  split <;> rfl

@[simp] theorem registry_used (p : Provider) : p.used.registry = p.registry := by
  simp only [registry, overrides_used]

end Provider

end TableProperties
