import TableProperties.Proofs.CommandLine.Arguments
import TableProperties.Proofs.CommandLine.Run
import TableProperties.Proofs.Mapping.Overlay
import TableProperties.Proofs.Validation

/-!
# Properties as words of the command line

A property is given on the command line by a word that starts with two dashes and has the value
between double quotes behind an equals sign. Such a word goes through two grammars. The one in front
of the command may take it for an abbreviation of one of its own options, but that has no effect
behind a command, and it never takes it for *several* options, which would be a fault. The grammar
of the command knows no abbreviations, so it collects the word, whatever else the key looks like;
only the keys that are names of its own options are not free.

All words are collected in their order, and reading them gives back keys and values as they were
written. So the command has the outcome of validating the properties themselves.

## Main statements

* `Overrides.ofWords_map_quotedWord`: the words give back the properties.
* `Arguments.ofWords_validate_quotedWords`: the command takes all of them.
* `run_validate_quotedWords`: the outcome of the command.
-/

namespace TableProperties

open Text (lowercase)

/-! ## Words and properties -/

namespace Overrides

variable {key value : String} {s t : List Char}

/-- The word that gives a key its value, which stands between double quotes. -/
def quotedWord (key value : String) : String :=
  "--" ++ key ++ "=\"" ++ value ++ "\""

theorem toList_quotedWord (key value : String) : (quotedWord key value).toList
    = '-' :: '-' :: (key.toList ++ '=' :: '"' :: (value.toList ++ ['"'])) := by
  simp [quotedWord]

theorem ne_sign_of_not_mem {c : Char} (h : '=' ∉ s) (hc : c ∈ s) : (c != '=') = true :=
  bne_iff_ne.mpr fun heq ↦ h (heq ▸ hc)

theorem splitAtEquals?_append (h : '=' ∉ s) (t : List Char) :
    splitAtEquals? (s ++ '=' :: t) = some (s, t) := by
  rw [splitAtEquals?, List.dropWhile_append_of_pos fun c ↦ ne_sign_of_not_mem h,
    List.takeWhile_append_of_pos fun c ↦ ne_sign_of_not_mem h]
  simp

/-- A text between double quotes is what is left when they are taken off. -/
theorem unquote_quoted (s : List Char) : unquote ('"' :: (s ++ ['"'])) = s := by
  cases s with
  | nil => rfl
  | cons c rest =>
    rw [List.cons_append, unquote, ← List.cons_append, List.getLast?_concat,
      List.dropLast_concat, if_pos ⟨.inr rfl, rfl⟩]

theorem pairsOf_quotedWord_cons (h : '=' ∉ key.toList) (value : String) (rest : List String) :
    pairsOf (quotedWord key value :: rest) = (key, value) :: pairsOf rest := by
  rw [pairsOf.eq_2, toList_quotedWord, optionBody?]
  simp only [splitAtEquals?_append h, unquote_quoted, String.ofList_toList]

theorem pairsOf_map_quotedWord {pairs : List (String × String)}
    (h : ∀ e ∈ pairs, '=' ∉ e.1.toList) :
    pairsOf (pairs.map fun e ↦ quotedWord e.1 e.2) = pairs := by
  induction pairs with
  | nil => rfl
  | cons e rest ih =>
    rw [List.map_cons, pairsOf_quotedWord_cons (h e List.mem_cons_self),
      ih fun d hd ↦ h d (List.mem_cons_of_mem e hd)]

/-- The words give back the properties. -/
theorem ofWords_map_quotedWord {pairs : List (String × String)}
    (h : ∀ e ∈ pairs, '=' ∉ e.1.toList) :
    ofWords (pairs.map fun e ↦ quotedWord e.1 e.2) = .ofList pairs := by
  rw [ofWords, pairsOf_map_quotedWord h]

end Overrides

namespace CommandLine

open Overrides (quotedWord toList_quotedWord)

/-- A key that can be given on the command line: it is not empty, has no equals sign, and is not the
name of an option of the command. -/
structure IsFreeKey (key : String) : Prop where
  ne_empty : key ≠ ""
  no_sign : '=' ∉ key.toList
  ne_help : key ≠ "help"
  ne_config : key ≠ "config"

instance (key : String) : Decidable (IsFreeKey key) :=
  decidable_of_iff (key ≠ "" ∧ '=' ∉ key.toList ∧ key ≠ "help" ∧ key ≠ "config")
    ⟨fun h ↦ ⟨h.1, h.2.1, h.2.2.1, h.2.2.2⟩,
      fun h ↦ ⟨h.ne_empty, h.no_sign, h.ne_help, h.ne_config⟩⟩

variable {g : Grammar} {key value : String} {s t : List Char} {words : List (String × Word)}

/-! ## Single words -/

theorem splitAtSign_append (h : '=' ∉ s) (t : List Char) :
    splitAtSign (s ++ '=' :: t) = (s, some t) := by
  rw [splitAtSign, List.dropWhile_append_of_pos fun c ↦ Overrides.ne_sign_of_not_mem h,
    List.takeWhile_append_of_pos fun c ↦ Overrides.ne_sign_of_not_mem h]
  simp

/-- No option has a name with an equals sign. -/
theorem Grammar.option?_eq_none_of_mem (g : Grammar) (h : '=' ∈ s) : g.option? s = none := by
  rw [Grammar.option?, List.lookup_eq_none_iff]
  intro entry hentry
  rw [Grammar.names, List.mem_flatMap] at hentry
  obtain ⟨kind, -, hentry⟩ := hentry
  obtain ⟨name, hname, rfl⟩ := List.mem_map.mp hentry
  have hplain : '=' ∉ name.toList := by
    revert name
    cases kind <;> decide
  refine bne_iff_ne.mpr ?_
  rintro rfl
  exact hplain h

/-- A word with an equals sign behind its name is looked up by its name. -/
theorem Grammar.named?_append (g : Grammar) (h : '=' ∉ s) (t : List Char) :
    g.named? (s ++ '=' :: t)
      = (g.option? s).map fun kind ↦ { kind, isLong := isLongName s, value := some t } := by
  rw [Grammar.named?, g.option?_eq_none_of_mem (by simp), splitAtSign_append h]

theorem not_mem_dashes (h : '=' ∉ s) : '=' ∉ '-' :: '-' :: s := by
  simp [h]

theorem Word.ofText_quotedWord (g : Grammar) (h : '=' ∉ key.toList) (value : String) :
    Word.ofText g (quotedWord key value) =
      match g.option? ('-' :: '-' :: key.toList) with
      | some kind =>
        .ok (.option ⟨kind, true, some ('"' :: (value.toList ++ ['"']))⟩)
      | none => g.abbreviated (quotedWord key value).toList := by
  have hlist : (quotedWord key value).toList
      = ('-' :: '-' :: key.toList) ++ '=' :: '"' :: (value.toList ++ ['"']) :=
    toList_quotedWord key value
  rw [Word.ofText, hlist, if_neg (by simp), g.named?_append (not_mem_dashes h)]
  cases g.option? ('-' :: '-' :: key.toList) <;> rfl

/-- The names of the options in front of a command that a text with at least three characters
starts: there is one at most, because the long names have different letters behind their dashes. -/
theorem Grammar.filter_names_front (c : Char) (rest : List Char) :
    ∃ found : Option (List Char × OptionKind), (Grammar.front.names.filter fun entry ↦
      ('-' :: '-' :: c :: rest).isPrefixOf entry.1) = found.toList := by
  have hnames : Grammar.front.names = [(['-', 'h'], .help), ("--help".toList, .help),
      (['-', 'v'], .verbose), ("--verbose".toList, .verbose)] := rfl
  rw [hnames]
  by_cases hhelp : c = 'h'
  · subst hhelp
    by_cases hrest : rest <+: ['e', 'l', 'p']
    · exact ⟨some ("--help".toList, .help), by simp [hrest]⟩
    · exact ⟨none, by simp [hrest]⟩
  · by_cases hverbose : c = 'v'
    · subst hverbose
      by_cases hrest : rest <+: ['e', 'r', 'b', 'o', 's', 'e']
      · exact ⟨some ("--verbose".toList, .verbose), by simp [hrest]⟩
      · exact ⟨none, by simp [hrest]⟩
    · exact ⟨none, by simp [hhelp, hverbose]⟩

/-- In front of a command, a word with a key is never taken for several options. -/
theorem Word.exists_ofText_front (hempty : key ≠ "") (h : '=' ∉ key.toList) (value : String) :
    ∃ kind, Word.ofText .front (quotedWord key value) = .ok kind := by
  have hlist : (quotedWord key value).toList
      = ('-' :: '-' :: key.toList) ++ '=' :: '"' :: (value.toList ++ ['"']) :=
    toList_quotedWord key value
  rw [Word.ofText_quotedWord _ h]
  cases Grammar.front.option? ('-' :: '-' :: key.toList) with
  | some kind => exact ⟨_, rfl⟩
  | none =>
    obtain ⟨c, rest, hkey⟩ : ∃ c rest, key.toList = c :: rest :=
      List.exists_cons_of_ne_nil fun hnil ↦ hempty (String.toList_eq_nil_iff.mp hnil)
    have hmatching : Grammar.front.matching (quotedWord key value).toList
        = (Grammar.front.names.filter fun entry ↦
            ('-' :: '-' :: key.toList).isPrefixOf entry.1).map fun entry ↦
              (entry.1, ⟨entry.2, true, some ('"' :: (value.toList ++ ['"']))⟩) := by
      rw [Grammar.matching, hlist, splitAtSign_append (not_mem_dashes h)]
      rfl
    obtain ⟨found, hfound⟩ := Grammar.filter_names_front c rest
    simp only [Grammar.abbreviated, hmatching, hkey, hfound]
    cases found with
    | none => exact ⟨_, rfl⟩
    | some entry => exact ⟨_, rfl⟩

/-- The command takes a word with a free key for none of its options. -/
theorem Word.ofText_validate (h : IsFreeKey key) (value : String) :
    ∃ kind, Word.ofText Command.validate.grammar (quotedWord key value) = .ok kind ∧
      (kind = .argument ∨ kind = .unknown) := by
  have hnames : Command.validate.grammar.names = [(['-', 'h'], .help), ("--help".toList, .help),
      (['-', 'c'], .config), ("--config".toList, .config)] := rfl
  have hfree : Command.validate.grammar.option? ('-' :: '-' :: key.toList) = none := by
    have hhelp : key.toList ≠ "help".toList := fun heq ↦ h.ne_help (String.toList_inj.mp heq)
    have hconfig : key.toList ≠ "config".toList := fun heq ↦ h.ne_config (String.toList_inj.mp heq)
    rw [Grammar.option?, hnames, List.lookup_eq_none_iff]
    simpa using ⟨hhelp, hconfig⟩
  have hmatching : Command.validate.grammar.matching (quotedWord key value).toList = [] := by
    rw [toList_quotedWord]
    rfl
  rw [Word.ofText_quotedWord _ h.no_sign, hfree]
  simp only [Grammar.abbreviated, hmatching]
  refine ⟨_, rfl, ?_⟩
  split
  · exact .inl rfl
  · exact .inr rfl

/-! ## All words -/

theorem quotedWord_ne_separator (key value : String) : quotedWord key value ≠ "--" := by
  intro h
  have hlist := congrArg String.toList h
  rw [toList_quotedWord] at hlist
  simp at hlist

theorem Word.exists_ofTexts_front {pairs : List (String × String)}
    (h : ∀ e ∈ pairs, IsFreeKey e.1) :
    ∃ words, Word.ofTexts .front (pairs.map fun e ↦ quotedWord e.1 e.2) = .ok words := by
  induction pairs with
  | nil => exact ⟨[], rfl⟩
  | cons e rest ih =>
    obtain ⟨words, hwords⟩ := ih fun d hd ↦ h d (List.mem_cons_of_mem e hd)
    have he := h e List.mem_cons_self
    obtain ⟨kind, hkind⟩ := Word.exists_ofText_front he.ne_empty he.no_sign e.2
    rw [List.map_cons, Word.ofTexts, if_neg (quotedWord_ne_separator e.1 e.2), hkind, hwords]
    exact ⟨_, rfl⟩

theorem Word.exists_ofTexts_validate {pairs : List (String × String)}
    (h : ∀ e ∈ pairs, IsFreeKey e.1) :
    ∃ words, Word.ofTexts Command.validate.grammar (pairs.map fun e ↦ quotedWord e.1 e.2)
        = .ok words ∧
      ∀ word ∈ words, word.2 = .argument ∨ word.2 = .unknown := by
  induction pairs with
  | nil => exact ⟨[], rfl, by simp⟩
  | cons e rest ih =>
    obtain ⟨words, hwords, hkinds⟩ := ih fun d hd ↦ h d (List.mem_cons_of_mem e hd)
    obtain ⟨kind, hkind, hcases⟩ := Word.ofText_validate (h e List.mem_cons_self) e.2
    rw [List.map_cons, Word.ofTexts, if_neg (quotedWord_ne_separator e.1 e.2), hkind, hwords]
    exact ⟨_, rfl, List.forall_mem_cons.mpr ⟨hcases, hkinds⟩⟩

theorem Reading.collect_collect (r : Reading) (xs ys : List String) :
    (r.collect xs).collect ys = r.collect (xs ++ ys) := by
  simp [Reading.collect]

/-- Behind a command, words that are no options are collected in their order. -/
theorem readWords_of_no_option (hg : g.hasCommand = false) (r : Reading)
    (h : ∀ word ∈ words, word.2 = .argument ∨ word.2 = .unknown) :
    readWords g r words = .ok (r.collect (words.map Prod.fst)) := by
  induction words generalizing r with
  | nil => simp [readWords, Reading.collect]
  | cons word rest ih =>
    obtain ⟨text, kind⟩ := word
    obtain ⟨hkind, hrest⟩ := List.forall_mem_cons.mp h
    have hnext : readWords g r ((text, kind) :: rest) = readWords g (r.collect [text]) rest := by
      rcases hkind with rfl | rfl
      · rw [readWords, if_neg (by simp [hg])]
      · rw [readWords]
    rw [hnext, ih (r.collect [text]) hrest, Reading.collect_collect]
    rfl

/-- The command takes all words with free keys, in their order, and nothing else. -/
theorem Arguments.ofWords_validate_quotedWords {pairs : List (String × String)}
    (h : ∀ e ∈ pairs, IsFreeKey e.1) :
    Arguments.ofWords (Command.validate.word :: pairs.map fun e ↦ quotedWord e.1 e.2)
      = .ok ⟨false, .validate, none, pairs.map fun e ↦ quotedWord e.1 e.2⟩ := by
  obtain ⟨words, hfront⟩ := Word.exists_ofTexts_front h
  obtain ⟨behind, hbehind, hkinds⟩ := Word.exists_ofTexts_validate h
  have hread : Command.validate.grammar.read (pairs.map fun e ↦ quotedWord e.1 e.2)
      = .ok { extras := pairs.map fun e ↦ quotedWord e.1 e.2 } := by
    have hcommand : Command.validate.grammar.hasCommand = false := rfl
    have hcollected := readWords_of_no_option hcommand {} hkinds
    rw [Word.map_fst_ofTexts hbehind] at hcollected
    rw [Grammar.read, hbehind]
    exact hcollected
  rw [Arguments.ofWords_word_cons, hfront]
  simp only [Arguments.ofCommand, Command.ofWord?_word, hread]
  simp

/-! ## The command -/

/-- What a run of `validate` prints, and its status: what is stored, or the error. -/
def outcomeOf : Except PropertyError Configuration → Outcome
  | .ok stored => ⟨0, configurationText stored, ""⟩
  | .error e => ⟨1, "", "error: " ++ e.message ++ "\n"⟩

variable {w : Workspace} {p : Provider}

/-- Without a file, the command has the outcome of validating the overrides. -/
theorem run_validate_of_extras {extras : List String}
    (h : Arguments.ofWords (Command.validate.word :: extras) = .ok ⟨false, .validate, none, extras⟩) :
    run w p (Command.validate.word :: extras)
      = .ok (outcomeOf (p.registry.validate (toConfiguration (Overrides.ofWords extras)))) := by
  have hreport : (report w.load p ⟨false, .validate, none, extras⟩).2
      = ((p.registry.validate (toConfiguration (Overrides.ofWords extras))).map
          configurationText).mapError .reported := by
    rw [report, readProperties]
    simp only [validate, Mapping.empty_merge]
  rw [run_word_cons h, Report.outcome_false, hreport]
  cases p.registry.validate (toConfiguration (Overrides.ofWords extras)) with
  | ok stored => rfl
  | error e => rfl

/-- **Properties given on the command line are validated as they are.** Whatever the values and the
free keys of some properties are, the words that give them are all taken by the command, in their
order, and give back the properties; and the run prints what validating them stores, or ends with
the error of the validation. -/
theorem run_validate_quotedWords (w : Workspace) (p : Provider) {pairs : List (String × String)}
    (h : ∀ e ∈ pairs, IsFreeKey e.1) :
    Arguments.ofWords ("validate" :: pairs.map fun e ↦ quotedWord e.1 e.2)
        = .ok ⟨false, .validate, none, pairs.map fun e ↦ quotedWord e.1 e.2⟩ ∧
      Overrides.ofWords (pairs.map fun e ↦ quotedWord e.1 e.2) = .ofList pairs ∧
      run w p ("validate" :: pairs.map fun e ↦ quotedWord e.1 e.2)
        = .ok (outcomeOf (p.registry.validate (toConfiguration (.ofList pairs)))) := by
  have hwords := Arguments.ofWords_validate_quotedWords h
  have hpairs := Overrides.ofWords_map_quotedWord fun e he ↦ (h e he).no_sign
  refine ⟨hwords, hpairs, (run_validate_of_extras hwords).trans ?_⟩
  rw [hpairs]

/-- Keys that look like options are properties like others. -/
theorem run_validate_keys_like_options :
    run {} .fresh ["validate", "--hel=\"x\"", "---v=\" a=b \"", "--a b=\"'q'\"", "--hel=\"\""]
      = .ok ⟨0, "\x7b\n    \"hel\": \"\",\n    \"-v\": \" a=b \",\n    \"a b\": \"'q'\"\n\x7d\n",
          ""⟩ := by
  have hfree : ∀ e ∈ [("hel", "x"), ("-v", " a=b "), ("a b", "'q'"), ("hel", "")],
      IsFreeKey e.1 := by
    decide
  obtain ⟨-, -, hrun⟩ := run_validate_quotedWords {} .fresh hfree
  have hplain : ∀ key ∈ ["hel", "-v", "a b"],
      isReserved (lowercase key) = false ∧ lowercase key = key := by
    decide +kernel
  have hentries : (toConfiguration (.ofList
      [("hel", "x"), ("-v", " a=b "), ("a b", "'q'"), ("hel", "")])).entries
        = [("hel", some ""), ("-v", some " a=b "), ("a b", some "'q'")] := rfl
  have hstored : Provider.fresh.registry.validate (toConfiguration (.ofList
      [("hel", "x"), ("-v", " a=b "), ("a b", "'q'"), ("hel", "")]))
        = .ok (.ofList [("hel", some ""), ("-v", some " a=b "), ("a b", some "'q'")]) := by
    refine Registry.validate_eq_ok_iff.mpr ⟨?_, ?_⟩
    · intro entry hentry
      have hkey : entry.1 ∈ ["hel", "-v", "a b"] := List.mem_map_of_mem hentry
      exact Registry.refusal?_eq_none_iff.mpr (.inl (hplain entry.1 hkey).1)
    · have hnormal (key : String) (hkey : key ∈ ["hel", "-v", "a b"]) :
          Provider.fresh.registry.normalKey key = key := by
        obtain ⟨hkey, hlower⟩ := hplain key hkey
        rw [Registry.normalKey_of_not_isReserved hkey, hlower]
      rw [hentries, List.map_cons, List.map_cons, List.map_cons, List.map_nil,
        hnormal "hel" (by simp), hnormal "-v" (by simp), hnormal "a b" (by simp)]
  rw [hstored] at hrun
  refine Eq.trans hrun (congrArg Except.ok ?_)
  decide +kernel

end CommandLine

end TableProperties
