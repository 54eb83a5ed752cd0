import TableProperties.CommandLine.Grammar
import TableProperties.Text.Digit

/-!
# Words of command lines

A word is an option, perhaps with a value in the same word, an option that the grammar does not
know, or an argument. Behind two dashes every word is an argument.

## Main definitions

* `Word.ofText`: the kind of a single word.
* `Given.resolve`: the options in one word; short ones may be joined.
-/

namespace TableProperties.CommandLine

/-- An option as it is given in a word. -/
structure Given where
  kind : OptionKind
  /-- Whether it is given by its long name. -/
  isLong : Bool
  /-- The value in the same word. -/
  value : Option (List Char) := none
  deriving DecidableEq, Repr

/-- A word of the command line. -/
inductive Word where
  | argument
  /-- Two dashes. -/
  | separator
  | option (given : Given)
  /-- An option that the grammar does not know. -/
  | unknown
  deriving DecidableEq, Repr

/-! ## Single words -/

/-- Whether a name is a long one. -/
def isLongName (name : List Char) : Bool :=
  "--".toList.isPrefixOf name

/-- A word up to its first equals sign, and what follows the sign. -/
def splitAtSign (s : List Char) : List Char × Option (List Char) :=
  match s.dropWhile (· != '=') with
  | [] => (s, none)
  | _ :: value => (s.takeWhile (· != '='), some value)

/-- Whether a word is a negative number; a line feed at its end does not count. -/
def isNegativeNumber (s : List Char) : Bool :=
  match if s.getLast? = some '\n' then s.dropLast else s with
  | '-' :: rest =>
    let isDigits (ds : List Char) : Bool := !ds.isEmpty && ds.all Text.isDigit
    match rest.dropWhile (· != '.') with
    | [] => isDigits rest
    | _ :: part => (rest.takeWhile (· != '.')).all Text.isDigit && isDigits part
  | _ => false

namespace Grammar

/-- The options whose names a word abbreviates, or whose short name it starts with. -/
def matching (g : Grammar) (s : List Char) : List (List Char × Given) :=
  if isLongName s then
    if g.abbreviates then
      let (start, value) := splitAtSign s
      (g.names.filter fun (name, _) ↦ start.isPrefixOf name).map fun (name, kind) ↦
        (name, { kind, isLong := true, value })
    else []
  else
    (g.names.filter fun (name, _) ↦ name == s.take 2).map fun (name, kind) ↦
      (name, { kind, isLong := false, value := some (s.drop 2) })

/-- The option of a word that gives one of its names, alone or with an equals sign. -/
def named? (g : Grammar) (s : List Char) : Option Given :=
  match g.option? s with
  | some kind => some { kind, isLong := isLongName s }
  | none =>
    match splitAtSign s with
    | (_, none) => none
    | (name, some value) =>
      (g.option? name).map fun kind ↦ { kind, isLong := isLongName name, value := some value }

/-- The kind of a word that starts with a dash and gives no name. -/
def abbreviated (g : Grammar) (s : List Char) : Except UsageFault Word :=
  match g.matching s with
  | [(_, given)] => .ok (.option given)
  | [] => .ok (if isNegativeNumber s || s.contains ' ' then .argument else .unknown)
  | several =>
    .error (.ambiguous (String.ofList s) (several.map fun (name, _) ↦ String.ofList name))

end Grammar

/-- The kind of a word other than two dashes. -/
def Word.ofText (g : Grammar) (word : String) : Except UsageFault Word :=
  let s := word.toList
  if s.head? ≠ some '-' ∨ s.length = 1 then .ok .argument
  else
    match g.named? s with
    | some given => .ok (.option given)
    | none => g.abbreviated s

/-- The kinds of all words. Behind two dashes there are only arguments. -/
def Word.ofTexts (g : Grammar) : List String → Except UsageFault (List (String × Word))
  | [] => .ok []
  | word :: rest =>
    if word = "--" then .ok ((word, .separator) :: rest.map (·, .argument))
    else
      match ofText g word with
      | .error fault => .error fault
      | .ok kind => (ofTexts g rest).map ((word, kind) :: ·)

/-! ## Joined options -/

/-- The options in one word. -/
structure Resolved where
  /-- The options that are complete. -/
  complete : List (OptionKind × Option String) := []
  /-- The last option, if its value has to be the next word. -/
  pending : Option OptionKind := none

/-- Puts an option without value in front of others. -/
def Resolved.after (kind : OptionKind) (r : Resolved) : Resolved :=
  { r with complete := (kind, none) :: r.complete }

/-- An option without a value in the same word. -/
def Resolved.ofKind (kind : OptionKind) : Resolved :=
  if kind.takesValue then { pending := some kind } else { complete := [(kind, none)] }

/-- The options in a word that starts with the given one and has a value. Behind a short option
without values the value is a list of further short options. -/
def resolveValue (g : Grammar) (kind : OptionKind) (isLong : Bool) :
    List Char → Except UsageFault Resolved
  | [] =>
    if kind.takesValue then .ok { complete := [(kind, some "")] }
    else .error (.valueUnexpected kind "")
  | c :: rest =>
    let value := String.ofList (c :: rest)
    if kind.takesValue then .ok { complete := [(kind, some value)] }
    else
      match isLong, g.option? ['-', c] with
      | false, some next =>
        if rest.isEmpty then .ok ((Resolved.ofKind next).after kind)
        else (resolveValue g next false rest).map (·.after kind)
      | _, _ => .error (.valueUnexpected kind value)

/-- The options in one word. -/
def Given.resolve (g : Grammar) (given : Given) : Except UsageFault Resolved :=
  match given.value with
  | none => .ok (.ofKind given.kind)
  | some value => resolveValue g given.kind given.isLong value

end TableProperties.CommandLine
