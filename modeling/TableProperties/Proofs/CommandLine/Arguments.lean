import TableProperties.CommandLine.Arguments
import TableProperties.Proofs.Except

/-!
# Command lines that start with a command

If the first word is a command, no option stands in front of it: the log is not asked for, and the
words behind the command are read by its own grammar.

## Main statements

* `ofWords_word_cons`: how such a command line is read.
-/

namespace TableProperties.CommandLine

/-- The words are kept along with their kinds. -/
theorem Word.map_fst_ofTexts {g : Grammar} {texts : List String} {words : List (String × Word)}
    (h : Word.ofTexts g texts = .ok words) : words.map Prod.fst = texts := by
  induction texts generalizing words with
  | nil =>
    obtain rfl : [] = words := Except.ok.inj h
    rfl
  | cons text rest ih =>
    rw [Word.ofTexts] at h
    split at h
    · rw [← Except.ok.inj h, List.map_cons, List.map_map]
      exact congrArg (text :: ·) (List.map_id rest)
    · split at h
      · exact absurd h (by simp)
      · obtain ⟨others, hrest, rfl⟩ := Except.map_eq_ok_iff.mp h
        rw [List.map_cons, ih hrest]

theorem Command.ofWord?_word (c : Command) : Command.ofWord? c.word = some c := by
  cases c <;> decide

theorem Word.ofText_word (g : Grammar) (c : Command) : Word.ofText g c.word = .ok .argument := by
  cases c <;> rfl

namespace Arguments

/-- A command line that starts with a command is read by the grammar of the command, unless one of
its words could not stand in front of a command either. -/
theorem ofWords_word_cons (c : Command) (rest : List String) :
    ofWords (c.word :: rest) =
      match Word.ofTexts .front rest with
      | .error fault => .error (.usage .front fault)
      | .ok _ => ofCommand { command := some (c.word :: rest) } c.word rest := by
  have hword : c.word ≠ "--" := by cases c <;> decide
  rw [ofWords, Grammar.read, Word.ofTexts, if_neg hword, Word.ofText_word]
  cases hrest : Word.ofTexts .front rest with
  | error fault => rfl
  | ok words =>
    simp only [Except.map, readWords, Word.map_fst_ofTexts hrest]
    rfl

/-- The command is the first word, and the log is not asked for. -/
theorem eq_of_ofWords_word_cons {c : Command} {rest : List String} {a : Arguments}
    (h : ofWords (c.word :: rest) = .ok a) : a.command = c ∧ a.verbose = false := by
  rw [ofWords_word_cons] at h
  split at h
  · exact absurd h (by simp)
  · rw [ofCommand, Command.ofWord?_word] at h
    simp only at h
    split at h
    · exact absurd h (by simp)
    · split at h
      · exact absurd h (by simp)
      · obtain rfl := Except.ok.inj h
        exact ⟨rfl, rfl⟩

end Arguments

end TableProperties.CommandLine
