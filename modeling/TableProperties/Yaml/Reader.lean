import TableProperties.Yaml.Composition
import TableProperties.Yaml.Document

/-!
# Reading YAML

The document of a text. The text must consist of characters that YAML allows, and have at most one
document; without one it stands for nothing at all.
-/

namespace TableProperties.Yaml

/-- The document of a text whose line ends are unified. -/
def read (s : String) : Except Fault Document :=
  let s := s.toList
  if s.all isAllowed then
    match Graph.ofTokens (tokens s) with
    | .error fault => .error fault
    | .ok none => .ok (.scalar .null)
    | .ok (some (id, g)) => g.document id
  else .error .malformed

end TableProperties.Yaml
