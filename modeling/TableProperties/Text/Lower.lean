import TableProperties.Text.Cased
import TableProperties.Text.LowercaseTable

/-!
# Lower case

The full lower case mapping of the Unicode Standard. Almost every character is mapped on its own,
by the table of `CaseRun`s. Two characters are not: the capital I with a dot above becomes two
characters, and the capital sigma becomes the final form `ς` at the end of a word and `σ`
elsewhere.

## Main definitions

* `lower` maps a list of characters, `lowercase` a string.
* `atWordEnd` is the context condition for the final sigma.
-/

namespace TableProperties.Text

/-- The lower case form of a character that does not depend on its neighbours. -/
def lowerChar (c : Char) : List Char :=
  if c = '\u0130' then ['i', '\u0307']
  else
    match caseRuns.find? fun r ↦ r.contains c.toNat with
    | some r => [Char.ofNat (c.toNat + r.offset).toNat]
    | none => [c]

/-- Whether the first character that is not case-ignorable is cased. -/
def meetsCased : List Char → Bool
  | [] => false
  | c :: rest => if isCaseIgnorable c then meetsCased rest else isCased c

/-- Whether a letter ends a word: going back (`before` is reversed) a cased character is met, and
going forward none is. -/
def atWordEnd (before after : List Char) : Bool :=
  meetsCased before && !meetsCased after

/-- Maps a text to lower case, given the reversed characters in front of it. -/
def lowerFrom (before : List Char) : List Char → List Char
  | [] => []
  | c :: rest =>
    let form :=
      if c = 'Σ' then (if atWordEnd before rest then ['ς'] else ['σ']) else lowerChar c
    form ++ lowerFrom (c :: before) rest

/-- The lower case form of a text. -/
def lower (s : List Char) : List Char :=
  lowerFrom [] s

/-- The lower case form of a string. -/
def lowercase (s : String) : String :=
  String.ofList (lower s.toList)

@[simp] theorem lower_nil : lower [] = [] := rfl

@[simp] theorem toList_lowercase (s : String) : (lowercase s).toList = lower s.toList := by
  simp [lowercase]

end TableProperties.Text
