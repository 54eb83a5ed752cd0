import TableProperties.Mapping

/-!
# Overrides on the command line

Properties can be given on the command line as `--key=value`, as `--key` followed by a value, or as
a bare `--key`, which stands for the value `true`. A value may be put between quotes. Words that
neither start with two dashes nor serve as a value are skipped.
-/

namespace TableProperties.Overrides

/-- What follows the two dashes of an option word. -/
def optionBody? : List Char → Option (List Char)
  | '-' :: '-' :: body => some body
  | _ => none

/-- Splits a text at its first equals sign. -/
def splitAtEquals? (s : List Char) : Option (List Char × List Char) :=
  match s.dropWhile (· != '=') with
  | [] => none
  | _ :: value => some (s.takeWhile (· != '='), value)

/-- Takes one pair of equal quotes off a text. -/
def unquote (s : List Char) : List Char :=
  match s with
  | quote :: c :: rest =>
    if (quote = '\'' ∨ quote = '"') ∧ (c :: rest).getLast? = some quote then (c :: rest).dropLast
    else s
  | _ => s

/-- The value of a key that is given without one. -/
def bareValue : String := "true"

/-- The properties that a list of words gives, in order and with repetitions. -/
def pairsOf : List String → List (String × String)
  | [] => []
  | word :: rest =>
    match optionBody? word.toList with
    | none => pairsOf rest
    | some body =>
      match splitAtEquals? body with
      | some (key, value) => (String.ofList key, String.ofList (unquote value)) :: pairsOf rest
      | none =>
        match rest with
        | [] => [(String.ofList body, bareValue)]
        | next :: rest =>
          match optionBody? next.toList with
          | some _ => (String.ofList body, bareValue) :: pairsOf (next :: rest)
          | none => (String.ofList body, String.ofList (unquote next.toList)) :: pairsOf rest

/-- The properties that a list of words gives. -/
def ofWords (words : List String) : Mapping String :=
  .ofList (pairsOf words)

@[simp] theorem pairsOf_nil : pairsOf [] = [] := rfl

/-- A word without dashes gives nothing unless it serves as a value. -/
theorem pairsOf_cons_of_stray {word : String} (h : optionBody? word.toList = none)
    (rest : List String) : pairsOf (word :: rest) = pairsOf rest := by
  rw [pairsOf.eq_2, h]

end TableProperties.Overrides
