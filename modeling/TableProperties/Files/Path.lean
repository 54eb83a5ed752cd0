import TableProperties.Text.Lower
import TableProperties.Text.Quoted

/-!
# Paths

Names of files. A path is kept in a normal form: repeated and final slashes and components that
name the current directory are dropped, while components that name a parent directory are kept.
-/

namespace TableProperties

/-- The name of a file or directory. -/
structure Path where
  /-- The slashes at the start of an absolute path: none, one or two. -/
  root : String
  /-- The components. -/
  parts : List String
  deriving DecidableEq, Repr

namespace Path

/-- Splits a text at its slashes. -/
def splitAtSlashes (s : List Char) : List (List Char) :=
  s.splitOn '/'

/-- The root of a text: two slashes stay two, any other number counts as one. -/
def rootOf (s : List Char) : String :=
  match s.takeWhile (· == '/') with
  | [] => ""
  | ['/', '/'] => "//"
  | _ => "/"

/-- The path that a text names. -/
def ofText (text : String) : Path where
  root := rootOf text.toList
  parts := ((splitAtSlashes text.toList).filter fun part ↦ part != [] && part != ['.']).map
    String.ofList

/-- The normal form of a path as a text. -/
def text (p : Path) : String :=
  if p.root = "" ∧ p.parts = [] then "." else p.root ++ String.intercalate "/" p.parts

/-- The last component of a path. -/
def name (p : Path) : String :=
  p.parts.getLast?.getD ""

/-- The path without its last component. -/
def parent (p : Path) : Path :=
  { p with parts := p.parts.dropLast }

/-- The part of a name from its last full stop on. A full stop at the start or at the end of the
name starts no suffix. -/
def suffixOf (name : List Char) : List Char :=
  let tail := (name.reverse.takeWhile (· != '.')).reverse
  if tail.isEmpty || name.length ≤ tail.length + 1 then [] else '.' :: tail

/-- The suffix of a path, in lower case. -/
def suffix (p : Path) : String :=
  String.ofList (Text.lower (suffixOf p.name.toList))

end Path

end TableProperties
