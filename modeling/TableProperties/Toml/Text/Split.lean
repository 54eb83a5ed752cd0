/-!
# Splitting texts

How the parts of a line are told apart: by a separator, by the quotes that enclose a part, and by
the first separator that stands outside quotes.

## Main definitions

* `splitAt`: the parts between the occurrences of a separator; `join_splitAt` puts them together
  again.
* `splitAtQuotes`: the parts between quotes, every other part being inside them.
* `firstOutside`: the number of the first separator outside quotes.
-/

namespace TableProperties.Toml

/-- Puts a character in front of the first part. -/
def addToFirst (c : Char) : List (List Char) → List (List Char)
  | [] => [[c]]
  | part :: rest => (c :: part) :: rest

/-- Splits a text, skipping some characters at its start, which belong to a separator. -/
def splitAfter (separator : List Char) : Nat → List Char → List (List Char)
  | _, [] => [[]]
  | skip + 1, _ :: rest => splitAfter separator skip rest
  | 0, c :: rest =>
    if separator.isPrefixOf (c :: rest) then
      [] :: splitAfter separator (separator.length - 1) rest
    else addToFirst c (splitAfter separator 0 rest)

/-- The parts of a text between the occurrences of a separator that is not empty. -/
def splitAt (separator s : List Char) : List (List Char) :=
  splitAfter separator 0 s

/-- The number of occurrences of a separator. -/
def occurrences (separator s : List Char) : Nat :=
  (splitAt separator s).length - 1

/-- Joins parts by a separator. -/
def join (separator : List Char) (parts : List (List Char)) : List Char :=
  List.intercalate separator parts

theorem splitAfter_ne_nil (separator : List Char) (skip : Nat) (s : List Char) :
    splitAfter separator skip s ≠ [] := by
  induction s generalizing skip with
  | nil => simp [splitAfter]
  | cons c rest ih =>
    cases skip with
    | succ skip => simpa [splitAfter] using ih skip
    | zero =>
      rw [splitAfter]
      split
      · simp
      · cases splitAfter separator 0 rest <;> simp [addToFirst]

theorem join_addToFirst (separator : List Char) (c : Char) {parts : List (List Char)}
    (h : parts ≠ []) : join separator (addToFirst c parts) = c :: join separator parts := by
  match parts, h with
  | [part], _ => simp [addToFirst, join]
  | part :: next :: rest, _ => simp [addToFirst, join, List.intercalate_cons_cons]

/-- The parts behind the skipped characters join to what follows these characters. -/
theorem join_splitAfter {separator : List Char} (hne : separator ≠ []) (skip : Nat)
    (s : List Char) : join separator (splitAfter separator skip s) = s.drop skip := by
  induction s generalizing skip with
  | nil => simp [splitAfter, join]
  | cons c rest ih =>
    cases skip with
    | succ skip => simpa [splitAfter] using ih skip
    | zero =>
      rw [splitAfter]
      split
      · next h =>
        obtain ⟨tail, htail⟩ := List.isPrefixOf_iff_prefix.1 h
        obtain ⟨d, ds, rfl⟩ := List.exists_cons_of_ne_nil hne
        obtain ⟨p, ps, hp⟩ := List.exists_cons_of_ne_nil
          (splitAfter_ne_nil (d :: ds) ((d :: ds).length - 1) rest)
        have hrest := ih ((d :: ds).length - 1)
        rw [hp] at hrest ⊢
        rw [join, List.intercalate_cons_cons, ← join, hrest]
        simp only [List.cons_append, List.cons.injEq] at htail
        obtain ⟨rfl, rfl⟩ := htail
        simp
      · rw [join_addToFirst separator c (splitAfter_ne_nil separator 0 rest), ih 0]
        simp

/-- Splitting loses nothing. -/
theorem join_splitAt {separator : List Char} (hne : separator ≠ []) (s : List Char) :
    join separator (splitAt separator s) = s :=
  join_splitAfter hne 0 s

/-! ## Quotes -/

/-- Completes the last of some parts between single quotes. As long as their number is even, a
double quote inside them was no quote, and the next part belongs to them. -/
def completeSingles (singles : List (List Char)) : List (List Char) → List (List Char)
  | [] => singles
  | next :: rest =>
    if singles.length % 2 = 0 then
      let last := singles.getLast?.getD [] ++ '"' :: next
      completeSingles (singles.dropLast ++ last.splitOn '\'') rest
    else
      singles ++ next.splitOn '\'' ++ rest

/-- The parts of a line between quotes. Parts inside and outside quotes take turns. -/
def splitAtQuotes (line : List Char) : List (List Char) :=
  match line.splitOn '"' with
  | [] => []
  | first :: rest =>
    if !rest.isEmpty && first.contains '\'' then completeSingles (first.splitOn '\'') rest
    else first.splitOn '\'' ++ rest

/-- The number of the first separator in a part outside quotes, among all separators in the parts,
counted from one. -/
def firstOutsideOf (separator : List Char) (quoted : Bool) : List (List Char) → Nat
  | [] => 1
  | part :: rest =>
    let count := occurrences separator part
    if !quoted && count != 0 then 1
    else count + firstOutsideOf separator (!quoted) rest

/-- The number of the first separator of a line that stands outside quotes, counted from one. -/
def firstOutside (separator line : List Char) : Nat :=
  firstOutsideOf separator false (splitAtQuotes line)

/-! ## Backslashes -/

/-- Whether a text ends in an odd number of backslashes, so that the last one is not escaped. The
text is given in reverse. -/
def escapesNext (reversed : List Char) : Bool :=
  (reversed.takeWhile (· == '\\')).length % 2 == 1

end TableProperties.Toml
