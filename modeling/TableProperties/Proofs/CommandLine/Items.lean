import Mathlib.Data.List.Chain
import TableProperties.Proofs.CommandLine.QuotedWords

/-!
# The items of a list of words

The words that give properties fall into items: a key with its value in one word, a key and its
value in two words, a key without a value, and strays, which give nothing. What a word is depends on
its neighbours, for a word without dashes is the value of the key in front of it, if there is one
that still lacks a value. This is the only constraint between neighbours, that no stray stands
behind a bare key, and with it there is exactly one way to split a list of words into items: the
first word and a look at the next one tell the first item.

The properties are those of the items in their order. A value loses one pair of equal quotes around
it and nothing else, so values between quotes can be given in either form, with strays at any place
but between a key and its value.

## Main statements

* `exists_isSplitting`, `IsSplitting.unique`: every list of words has one splitting.
* `pairsOf_of_isSplitting`: the properties are those of the items.
* `unquote_eq_iff`: what is left of a value without its quotes.
* `ofWords_by_items`: how properties are read off words.
-/

namespace TableProperties.Overrides

variable {key value word : String} {rest : List String} {s t : List Char}

/-! ## Words with dashes -/

/-- Whether a word starts with two dashes. -/
def IsOption (word : String) : Prop :=
  ['-', '-'] <+: word.toList

instance : DecidablePred IsOption :=
  fun word ↦ inferInstanceAs (Decidable (['-', '-'] <+: word.toList))

/-- The word of a key alone. -/
def keyWord (key : String) : String :=
  "--" ++ key

/-- The word of a key and a value. -/
def joinedWord (key value : String) : String :=
  keyWord key ++ "=" ++ value

@[simp] theorem toList_keyWord (key : String) :
    (keyWord key).toList = '-' :: '-' :: key.toList := by
  simp [keyWord]

@[simp] theorem toList_joinedWord (key value : String) :
    (joinedWord key value).toList = '-' :: '-' :: (key.toList ++ '=' :: value.toList) := by
  simp [joinedWord]

theorem isOption_keyWord (key : String) : IsOption (keyWord key) := by
  simp [IsOption]

theorem isOption_joinedWord (key value : String) : IsOption (joinedWord key value) := by
  simp [IsOption]

theorem optionBody?_eq_none (h : ¬ IsOption word) : optionBody? word.toList = none := by
  unfold optionBody?
  split
  · next body heq => exact absurd ⟨body, heq.symm⟩ h
  · rfl

theorem splitAtEquals?_of_not_mem (h : '=' ∉ s) : splitAtEquals? s = none := by
  have hdrop : s.dropWhile (· != '=') = [] :=
    List.dropWhile_eq_nil_iff.mpr fun c hc ↦ ne_sign_of_not_mem h hc
  rw [splitAtEquals?, hdrop]

/-- A word with dashes has a key, and a value if it has an equals sign. -/
theorem exists_key_of_isOption (h : IsOption word) :
    ∃ key : String, '=' ∉ key.toList ∧
      (word = keyWord key ∨ ∃ value, word = joinedWord key value) := by
  obtain ⟨body, hbody⟩ := h
  by_cases hsign : '=' ∈ body
  · obtain ⟨key, value, rfl, hkey⟩ := List.eq_append_cons_of_mem hsign
    refine ⟨String.ofList key, by simpa using hkey, .inr ⟨String.ofList value, ?_⟩⟩
    exact String.toList_inj.mp (by simp [← hbody])
  · refine ⟨String.ofList body, by simpa using hsign, .inl ?_⟩
    exact String.toList_inj.mp (by simp [← hbody])

theorem keyWord_injective : Function.Injective keyWord := by
  intro key key' h
  have hlist := congrArg String.toList h
  simp only [toList_keyWord, List.cons.injEq, true_and] at hlist
  exact String.toList_inj.mp hlist

/-- The first equals sign stands behind the key. -/
theorem joinedWord_inj {key' value' : String} (hkey : '=' ∉ key.toList)
    (hkey' : '=' ∉ key'.toList) (h : joinedWord key value = joinedWord key' value') :
    key = key' ∧ value = value' := by
  have hlist := congrArg String.toList h
  simp only [toList_joinedWord, List.cons.injEq, true_and] at hlist
  have hsplit := congrArg splitAtEquals? hlist
  rw [splitAtEquals?_append hkey, splitAtEquals?_append hkey', Option.some.injEq,
    Prod.mk.injEq] at hsplit
  exact ⟨String.toList_inj.mp hsplit.1, String.toList_inj.mp hsplit.2⟩

theorem keyWord_ne_joinedWord {key' : String} (hkey : '=' ∉ key.toList) (value : String) :
    keyWord key ≠ joinedWord key' value := by
  intro h
  have hlist := congrArg String.toList h
  simp only [toList_keyWord, toList_joinedWord, List.cons.injEq, true_and] at hlist
  exact hkey (hlist ▸ by simp)

/-! ## Quotes around a value -/

/-- The characters that can enclose a value. -/
def IsQuote (c : Char) : Prop :=
  c = '\'' ∨ c = '"'

/-- What is left of a value: the text between two equal quotes, or the whole value if there are no
such quotes around it. -/
inductive Unquotes : List Char → List Char → Prop
  /-- The value stands between quotes. -/
  | enclosed {quote : Char} {s : List Char} (hquote : IsQuote quote) :
      Unquotes (quote :: (s ++ [quote])) s
  /-- The value does not stand between quotes. -/
  | plain {s : List Char} (h : ∀ quote t, IsQuote quote → s ≠ quote :: (t ++ [quote])) :
      Unquotes s s

theorem unquote_enclosed {quote : Char} (hquote : IsQuote quote) (s : List Char) :
    unquote (quote :: (s ++ [quote])) = s := by
  cases s with
  | nil => rw [List.nil_append, unquote, if_pos ⟨hquote, rfl⟩]; rfl
  | cons c rest =>
    rw [List.cons_append, unquote, ← List.cons_append, List.getLast?_concat,
      List.dropLast_concat, if_pos ⟨hquote, rfl⟩]

theorem unquotes_unquote (s : List Char) : Unquotes s (unquote s) := by
  by_cases henclosed : ∃ quote t, IsQuote quote ∧ s = quote :: (t ++ [quote])
  · obtain ⟨quote, t, hquote, rfl⟩ := henclosed
    rw [unquote_enclosed hquote]
    exact .enclosed hquote
  · simp only [not_exists, not_and] at henclosed
    have hplain : unquote s = s := by
      unfold unquote
      split
      · next quote c rest =>
        refine if_neg ?_
        rintro ⟨hquote, hlast⟩
        refine henclosed quote (c :: rest).dropLast hquote ?_
        rw [List.dropLast_append_getLast? quote hlast]
      · rfl
    rw [hplain]
    exact .plain henclosed

/-- What is left of a value is determined by the quotes around it. -/
theorem unquote_eq_iff : unquote s = t ↔ Unquotes s t := by
  constructor
  · rintro rfl
    exact unquotes_unquote s
  · rintro (hquote | hplain)
    · exact unquote_enclosed hquote t
    · generalize hrest : unquote s = rest
      have hunquotes := hrest ▸ unquotes_unquote s
      cases hunquotes with
      | enclosed hquote => exact absurd rfl (hplain _ _ hquote)
      | plain => rfl

/-- A value without one pair of quotes. -/
def unquoted (value : String) : String :=
  String.ofList (unquote value.toList)

/-! ## Items -/

/-- A part of a list of words that is read at once. -/
inductive Item where
  /-- A key and its value in one word. -/
  | joined (key value : String) (hkey : '=' ∉ key.toList)
  /-- A key and its value in two words. -/
  | separated (key value : String) (hkey : '=' ∉ key.toList) (hvalue : ¬ IsOption value)
  /-- A key without a value. -/
  | bare (key : String) (hkey : '=' ∉ key.toList)
  /-- A word that gives nothing. -/
  | stray (word : String) (hword : ¬ IsOption word)

namespace Item

/-- The words of an item. -/
def words : Item → List String
  | joined key value _ => [joinedWord key value]
  | separated key value _ _ => [keyWord key, value]
  | bare key _ => [keyWord key]
  | stray word _ => [word]

/-- The property that an item gives. -/
def pair? : Item → Option (String × String)
  | joined key value _ => some (key, unquoted value)
  | separated key value _ _ => some (key, unquoted value)
  | bare key _ => some (key, "true")
  | stray _ _ => none

/-- Whether an item can stand in front of another one. Only a stray cannot stand behind a bare key,
whose value it would be. -/
def MayPrecede : Item → Item → Prop
  | bare _ _, stray _ _ => False
  | _, _ => True

/-- Whether an item can stand in front of some words: behind a bare key is the end or a word with
dashes. -/
def Fits : Item → List String → Prop
  | bare _ _, rest => ∀ next ∈ rest.head?, IsOption next
  | _, _ => True

end Item

/-- Whether some items are a splitting of some words. -/
structure IsSplitting (words : List String) (items : List Item) : Prop where
  /-- The items have these words, in their order. -/
  flatMap_words : items.flatMap Item.words = words
  /-- No stray stands behind a bare key. -/
  isChain : items.IsChain Item.MayPrecede

variable {words : List String} {items : List Item} {a b : Item}

theorem Item.isOption_of_mayPrecede {key : String} {hkey : '=' ∉ key.toList}
    (h : (bare key hkey).MayPrecede a) : ∀ next ∈ a.words.head?, IsOption next := by
  cases a with
  | joined key value =>
    rintro next ⟨⟩
    exact isOption_joinedWord key value
  | separated key | bare key =>
    rintro next ⟨⟩
    exact isOption_keyWord key
  | stray => exact h.elim

theorem Item.words_ne_nil (a : Item) : a.words ≠ [] := by
  cases a <;> exact List.cons_ne_nil _ _

/-- Whether an item can stand in front of others is told by their first word. -/
theorem Item.fits_flatMap_iff :
    a.Fits (items.flatMap Item.words) ↔ ∀ b ∈ items.head?, a.MayPrecede b := by
  cases items with
  | nil => cases a <;> simp [Fits]
  | cons b rest =>
    have hhead : ((b :: rest).flatMap Item.words).head? = b.words.head? := by
      rw [List.flatMap_cons, List.head?_append_of_ne_nil _ b.words_ne_nil]
    cases a with
    | joined | separated | stray => simp [Fits, MayPrecede]
    | bare key hkey =>
      rw [Fits, hhead]
      constructor
      · rintro h next ⟨⟩
        cases b with
        | joined | separated | bare => exact trivial
        | stray word hword => exact hword (h word rfl)
      · intro h
        exact isOption_of_mayPrecede (h b rfl)

theorem isSplitting_nil_iff : IsSplitting words [] ↔ words = [] :=
  ⟨fun h ↦ h.flatMap_words.symm, fun h ↦ ⟨h.symm, .nil⟩⟩

/-- A splitting is a first item that fits in front of the other words, and a splitting of these. -/
theorem isSplitting_cons_iff :
    IsSplitting words (a :: items) ↔
      ∃ rest, words = a.words ++ rest ∧ a.Fits rest ∧ IsSplitting rest items := by
  constructor
  · rintro ⟨hwords, hchain⟩
    rw [List.isChain_cons] at hchain
    rw [List.flatMap_cons] at hwords
    exact ⟨_, hwords.symm, Item.fits_flatMap_iff.mpr hchain.1, rfl, hchain.2⟩
  · rintro ⟨rest, rfl, hfits, rfl, hchain⟩
    refine ⟨List.flatMap_cons, List.isChain_cons.mpr ⟨Item.fits_flatMap_iff.mp hfits, hchain⟩⟩

/-! ## There is one splitting -/

theorem exists_isSplitting : (words : List String) → ∃ items, IsSplitting words items
  | [] => ⟨[], isSplitting_nil_iff.mpr rfl⟩
  | word :: rest => by
    by_cases hword : IsOption word
    · obtain ⟨key, hkey, rfl | ⟨value, rfl⟩⟩ := exists_key_of_isOption hword
      · -- the next word tells whether the key has a value
        cases rest with
        | nil =>
          refine ⟨[.bare key hkey], isSplitting_cons_iff.mpr ⟨[], rfl, ?_, ?_⟩⟩
          · simp [Item.Fits]
          · exact isSplitting_nil_iff.mpr rfl
        | cons next rest =>
          by_cases hnext : IsOption next
          · obtain ⟨items, hitems⟩ := exists_isSplitting (next :: rest)
            refine ⟨.bare key hkey :: items, isSplitting_cons_iff.mpr ⟨_, rfl, ?_, hitems⟩⟩
            simpa [Item.Fits] using hnext
          · obtain ⟨items, hitems⟩ := exists_isSplitting rest
            exact ⟨.separated key next hkey hnext :: items,
              isSplitting_cons_iff.mpr ⟨rest, rfl, trivial, hitems⟩⟩
      · obtain ⟨items, hitems⟩ := exists_isSplitting rest
        exact ⟨.joined key value hkey :: items,
          isSplitting_cons_iff.mpr ⟨rest, rfl, trivial, hitems⟩⟩
    · obtain ⟨items, hitems⟩ := exists_isSplitting rest
      exact ⟨.stray word hword :: items, isSplitting_cons_iff.mpr ⟨rest, rfl, trivial, hitems⟩⟩

/-- The first item of some words is told by the first word and a look at the next one. -/
theorem Item.eq_of_words_append_eq {us vs : List String} (ha : a.Fits us) (hb : b.Fits vs)
    (h : a.words ++ us = b.words ++ vs) : a = b ∧ us = vs := by
  cases a with
  | joined key value hkey =>
    cases b with
    | joined key' value' hkey' =>
      obtain ⟨hword, hrest⟩ := List.cons.inj h
      obtain ⟨rfl, rfl⟩ := joinedWord_inj hkey hkey' hword
      exact ⟨rfl, hrest⟩
    | separated key' value' hkey' | bare key' hkey' =>
      exact absurd (List.cons.inj h).1.symm (keyWord_ne_joinedWord hkey' value)
    | stray word hword =>
      exact absurd ((List.cons.inj h).1 ▸ isOption_joinedWord key value) hword
  | separated key value hkey hvalue =>
    cases b with
    | joined key' value' => exact absurd (List.cons.inj h).1 (keyWord_ne_joinedWord hkey value')
    | separated key' value' =>
      obtain ⟨hword, hrest⟩ := List.cons.inj h
      obtain rfl := keyWord_injective hword
      obtain ⟨rfl, rfl⟩ := List.cons.inj hrest
      exact ⟨rfl, rfl⟩
    | bare key' =>
      -- the value would have to be a word with dashes
      have hrest : value :: us = vs := (List.cons.inj h).2
      exact absurd (hb value (hrest ▸ rfl)) hvalue
    | stray word hword => exact absurd ((List.cons.inj h).1 ▸ isOption_keyWord key) hword
  | bare key hkey =>
    cases b with
    | joined key' value' => exact absurd (List.cons.inj h).1 (keyWord_ne_joinedWord hkey value')
    | separated key' value' hkey' hvalue' =>
      have hrest : us = value' :: vs := (List.cons.inj h).2
      exact absurd (ha value' (hrest ▸ rfl)) hvalue'
    | bare key' =>
      obtain ⟨hword, hrest⟩ := List.cons.inj h
      obtain rfl := keyWord_injective hword
      exact ⟨rfl, hrest⟩
    | stray word hword => exact absurd ((List.cons.inj h).1 ▸ isOption_keyWord key) hword
  | stray word hword =>
    cases b with
    | joined key value =>
      exact absurd ((List.cons.inj h).1 ▸ isOption_joinedWord key value) hword
    | separated key | bare key => exact absurd ((List.cons.inj h).1 ▸ isOption_keyWord key) hword
    | stray =>
      obtain ⟨rfl, hrest⟩ := List.cons.inj h
      exact ⟨rfl, hrest⟩

theorem IsSplitting.unique {others : List Item} (h : IsSplitting words items)
    (h' : IsSplitting words others) : items = others := by
  induction items generalizing words others with
  | nil =>
    obtain rfl := isSplitting_nil_iff.mp h
    cases others with
    | nil => rfl
    | cons b others =>
      obtain ⟨rest, hwords, -⟩ := isSplitting_cons_iff.mp h'
      exact absurd (List.append_eq_nil_iff.mp hwords.symm).1 b.words_ne_nil
  | cons a items ih =>
    obtain ⟨us, rfl, ha, hitems⟩ := isSplitting_cons_iff.mp h
    cases others with
    | nil =>
      exact absurd (List.append_eq_nil_iff.mp (isSplitting_nil_iff.mp h')).1 a.words_ne_nil
    | cons b others =>
      obtain ⟨vs, hwords, hb, hothers⟩ := isSplitting_cons_iff.mp h'
      obtain ⟨rfl, rfl⟩ := Item.eq_of_words_append_eq ha hb hwords
      rw [ih hitems hothers]

/-! ## The properties of the items -/

theorem pairsOf_joinedWord_cons (hkey : '=' ∉ key.toList) (value : String) (rest : List String) :
    pairsOf (joinedWord key value :: rest) = (key, unquoted value) :: pairsOf rest := by
  rw [pairsOf.eq_2, toList_joinedWord, optionBody?]
  simp only [splitAtEquals?_append hkey, String.ofList_toList]
  rfl

theorem pairsOf_keyWord_cons (hkey : '=' ∉ key.toList) (hvalue : ¬ IsOption value)
    (rest : List String) :
    pairsOf (keyWord key :: value :: rest) = (key, unquoted value) :: pairsOf rest := by
  rw [pairsOf.eq_2, toList_keyWord, optionBody?]
  simp only [splitAtEquals?_of_not_mem hkey, optionBody?_eq_none hvalue, String.ofList_toList]
  rfl

theorem pairsOf_keyWord_cons_of_isOption (hkey : '=' ∉ key.toList)
    (hrest : ∀ next ∈ rest.head?, IsOption next) :
    pairsOf (keyWord key :: rest) = (key, "true") :: pairsOf rest := by
  rw [pairsOf.eq_2, toList_keyWord, optionBody?]
  cases rest with
  | nil => simp only [splitAtEquals?_of_not_mem hkey, String.ofList_toList]; rfl
  | cons next rest =>
    obtain ⟨body, hbody⟩ := hrest next rfl
    simp only [splitAtEquals?_of_not_mem hkey, ← hbody, String.ofList_toList]
    rfl

/-- What the first item gives stands in front of what the other words give. -/
theorem pairsOf_words_append (h : a.Fits rest) :
    pairsOf (a.words ++ rest) = a.pair?.toList ++ pairsOf rest := by
  cases a with
  | joined key value hkey => exact pairsOf_joinedWord_cons hkey value rest
  | separated key value hkey hvalue => exact pairsOf_keyWord_cons hkey hvalue rest
  | bare key hkey => exact pairsOf_keyWord_cons_of_isOption hkey h
  | stray word hword => exact pairsOf_cons_of_stray (optionBody?_eq_none hword) rest

theorem pairsOf_of_isSplitting (h : IsSplitting words items) :
    pairsOf words = items.filterMap Item.pair? := by
  induction items generalizing words with
  | nil =>
    rw [isSplitting_nil_iff.mp h]
    rfl
  | cons a items ih =>
    obtain ⟨rest, rfl, hfits, hitems⟩ := isSplitting_cons_iff.mp h
    rw [pairsOf_words_append hfits, ih hitems, List.filterMap_cons]
    cases a.pair? <;> rfl

/-! ## Properties between quotes -/

/-- A value between two equal quotes. -/
def inQuotes (quote : Char) (value : String) : String :=
  String.ofList (quote :: (value.toList ++ [quote]))

theorem unquoted_inQuotes {quote : Char} (hquote : IsQuote quote) (value : String) :
    unquoted (inQuotes quote value) = value := by
  rw [unquoted, inQuotes, String.toList_ofList, unquote_enclosed hquote, String.ofList_toList]

theorem not_isOption_inQuotes {quote : Char} (hquote : IsQuote quote) (value : String) :
    ¬ IsOption (inQuotes quote value) := by
  rw [IsOption, inQuotes, String.toList_ofList, List.cons_prefix_cons]
  rcases hquote with rfl | rfl
  · exact fun h ↦ absurd h.1 (by decide)
  · exact fun h ↦ absurd h.1 (by decide)

/-- Whether some words give properties with all values between quotes: each in one word or in two,
and strays at any place but between the two words of a property. -/
inductive IsWritten : List (String × String) → List String → Prop
  /-- There are no words. -/
  | nil : IsWritten [] []
  /-- A property in one word. -/
  | joined {key value : String} {pairs : List (String × String)} {rest : List String} {quote : Char}
      (hquote : IsQuote quote) (h : IsWritten pairs rest) :
      IsWritten ((key, value) :: pairs) (joinedWord key (inQuotes quote value) :: rest)
  /-- A property in two words. -/
  | separated {key value : String} {pairs : List (String × String)} {rest : List String}
      {quote : Char} (hquote : IsQuote quote) (h : IsWritten pairs rest) :
      IsWritten ((key, value) :: pairs) (keyWord key :: inQuotes quote value :: rest)
  /-- A stray. -/
  | stray {word : String} {pairs : List (String × String)} {rest : List String}
      (hword : ¬ IsOption word) (h : IsWritten pairs rest) : IsWritten pairs (word :: rest)

theorem pairsOf_of_isWritten {pairs : List (String × String)} (h : IsWritten pairs words)
    (hkeys : ∀ e ∈ pairs, '=' ∉ e.1.toList) : pairsOf words = pairs := by
  induction h with
  | nil => rfl
  | joined hquote _ ih =>
    obtain ⟨hkey, hrest⟩ := List.forall_mem_cons.mp hkeys
    rw [pairsOf_joinedWord_cons hkey, unquoted_inQuotes hquote, ih hrest]
  | separated hquote _ ih =>
    obtain ⟨hkey, hrest⟩ := List.forall_mem_cons.mp hkeys
    rw [pairsOf_keyWord_cons hkey (not_isOption_inQuotes hquote _), unquoted_inQuotes hquote,
      ih hrest]
  | stray hword _ ih => rw [pairsOf_cons_of_stray (optionBody?_eq_none hword), ih hkeys]

/-! ## All words -/

/-- **How properties are read off words.** Every list of words has exactly one splitting into items.
The properties are those that the items give, with the keys in the order of their first occurrences
and the last value of each; a value loses one pair of equal quotes around it, a key without a value
is `true`, and strays give nothing. So properties whose keys have no equals sign are read back if
their values are written between quotes. -/
theorem ofWords_by_items :
    (∀ words, ∃! items, IsSplitting words items) ∧
      (∀ words items, IsSplitting words items →
        (ofWords words).keys = ((items.filterMap Item.pair?).map Prod.fst).eraseDups ∧
          ∀ key, (ofWords words).get? key
            = lastValue? (· == key) (items.filterMap Item.pair?)) ∧
      (∀ s t, unquote s = t ↔ Unquotes s t) ∧
      ∀ (properties : Mapping String) (words : List String),
        (∀ key ∈ properties.keys, '=' ∉ key.toList) → IsWritten properties.entries words →
          ofWords words = properties := by
  refine ⟨fun words ↦ ?_, fun words items h ↦ ?_, fun s t ↦ unquote_eq_iff,
    fun properties words hkeys h ↦ ?_⟩
  · obtain ⟨items, hitems⟩ := exists_isSplitting words
    exact ⟨items, hitems, fun others hothers ↦ hothers.unique hitems⟩
  · rw [ofWords, pairsOf_of_isSplitting h]
    exact ⟨Mapping.keys_ofList _, Mapping.get?_ofList _⟩
  · have hentries : ∀ e ∈ properties.entries, '=' ∉ e.1.toList :=
      fun e he ↦ hkeys e.1 (List.mem_map_of_mem he)
    rw [ofWords, pairsOf_of_isWritten h hentries, Mapping.ofList_entries]

/-- The second `--a` takes the next word for its value, and `--b` finds none. -/
theorem ofWords_of_mixed_items :
    (ofWords ["x", "--a='", "--b", "--a", "''c''", "y"]).keys = ["a", "b"] ∧
      (ofWords ["x", "--a='", "--b", "--a", "''c''", "y"]).get? "a" = some "'c'" ∧
      ofWords ["x", "--a b=\"--c=\"", "y", "--", "'\"'", "z"]
        = .ofList [("a b", "--c="), ("", "\"")] := by
  have hsplit : IsSplitting ["x", "--a='", "--b", "--a", "''c''", "y"]
      [.stray "x" (by decide +kernel), .joined "a" "'" (by decide +kernel),
        .bare "b" (by decide +kernel),
        .separated "a" "''c''" (by decide +kernel) (by decide +kernel),
        .stray "y" (by decide +kernel)] :=
    ⟨by decide +kernel, by simp [Item.MayPrecede]⟩
  obtain ⟨hkeys, hget⟩ := ofWords_by_items.2.1 _ _ hsplit
  refine ⟨hkeys.trans (by decide +kernel), (hget "a").trans (by decide +kernel), ?_⟩
  refine ofWords_by_items.2.2.2 _ _ (by decide +kernel) ?_
  exact .stray (by decide +kernel) (.joined (.inr rfl) (.stray (by decide +kernel)
    (.separated (.inl rfl) (.stray (by decide +kernel) .nil))))

end TableProperties.Overrides
