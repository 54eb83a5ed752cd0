import TableProperties.Proofs.Document.Flatten
import TableProperties.Proofs.Toml.Lines
import TableProperties.Toml.Reader

/-!
# Written tables are read back

Reading what was written of a table of plain strings under plain keys gives its entries in their
order. The line of an entry is cut at the first equals sign outside quotes, which is the one behind
the key, although there may be others in the value; and a key with dots in it is quoted, so that it
is one name and not a place in nested tables.

## Main statements

* `splitLine?_entryLine`, `keyNames_writeKey`, `readValue_quoted`: the line of an entry, its key and
  its value.
* `Reading.lines_entryLines`: the lines of a table.
* `read_write`: the whole text.
-/

namespace TableProperties.Toml

open Text

variable {c d : Char} {s t key value : List Char}

/-! ## Parts of a text -/

/-- A text without the first character of a separator has one part. -/
theorem splitAt_of_not_mem {separator : List Char} (h : d ∉ s) :
    splitAt (d :: separator) s = [s] := by
  rw [splitAt]
  induction s with
  | nil => rfl
  | cons c s ih =>
    have hc : (d == c) = false := beq_eq_false_iff_ne.mpr fun e ↦ h (e ▸ List.mem_cons_self)
    rw [splitAfter, List.isPrefixOf_cons_cons, hc, Bool.false_and, if_neg Bool.false_ne_true,
      ih fun hd ↦ h (List.mem_cons_of_mem c hd), addToFirst]

theorem occurrences_of_not_mem (h : d ∉ s) : occurrences [d] s = 0 := by
  rw [occurrences, splitAt_of_not_mem h]
  rfl

theorem splitAt_append_cons (h : d ∉ s) : splitAt [d] (s ++ d :: t) = s :: splitAt [d] t := by
  rw [splitAt, splitAt]
  induction s with
  | nil => rw [List.nil_append, splitAfter, if_pos (by simp)]; rfl
  | cons c s ih =>
    have hc : (d == c) = false := beq_eq_false_iff_ne.mpr fun e ↦ h (e ▸ List.mem_cons_self)
    rw [List.cons_append, splitAfter, List.isPrefixOf_cons_cons, hc, Bool.false_and,
      if_neg Bool.false_ne_true, ih fun hd ↦ h (List.mem_cons_of_mem c hd), addToFirst]

theorem occurrences_append_cons_ne_zero (h : d ∉ s) : occurrences [d] (s ++ d :: t) ≠ 0 := by
  have hpos : (splitAt [d] t).length ≠ 0 := fun hlength ↦
    splitAfter_ne_nil [d] 0 t (List.length_eq_zero_iff.mp hlength)
  rw [occurrences, splitAt_append_cons h, List.length_cons]
  omega

/-- The parts between quotes of a text that has no quote before the first double quote. -/
theorem splitAtQuotes_append_cons (hdouble : '"' ∉ s) (hsingle : '\'' ∉ s) :
    splitAtQuotes (s ++ '"' :: t) = s :: t.splitOn '"' := by
  have hcontains : s.contains '\'' = false := by simpa using hsingle
  rw [splitAtQuotes, List.splitOn_append_cons_self_of_not_mem hdouble]
  simp only [hcontains, Bool.and_false, Bool.false_eq_true, if_false]
  rw [List.splitOn_eq_singleton hsingle, List.singleton_append]

theorem splitOn_concat (h : d ∉ s) : (s ++ [d]).splitOn d = [s, []] := by
  rw [List.splitOn_append_cons_self_of_not_mem h]
  rfl

/-- The parts between quotes of a quoted text. -/
theorem splitAtQuotes_quoted (h : '"' ∉ s) : splitAtQuotes (quoted s) = [[], s, []] := by
  rw [quoted, ← List.nil_append ('"' :: _), splitAtQuotes_append_cons (by simp) (by simp),
    splitOn_concat h]

/-! ## White space -/

/-- Nothing is trimmed from a text with other characters than white space at its ends. -/
theorem trim_eq_self (hfirst : ∀ c ∈ s.head?, isBlank c = false)
    (hlast : ∀ c ∈ s.getLast?, isBlank c = false) : trim s = s := by
  have hstart : trimStart s = s := by
    cases s with
    | nil => rfl
    | cons c s => exact List.dropWhile_cons_of_neg (by rw [hfirst c rfl]; exact Bool.false_ne_true)
  rw [trim, hstart, trimEnd]
  cases hreverse : s.reverse with
  | nil => rw [← List.reverse_reverse s, hreverse]; rfl
  | cons c rest =>
    have hc : isBlank c = false := hlast c (by rw [← List.head?_reverse, hreverse]; rfl)
    rw [List.dropWhile_cons_of_neg (by rw [hc]; exact Bool.false_ne_true), ← hreverse,
      List.reverse_reverse]

theorem trim_space_cons (s : List Char) : trim (' ' :: s) = trim s := rfl

theorem trim_append_space (hne : s ≠ []) (hfirst : ∀ c ∈ s.head?, isBlank c = false) :
    trim (s ++ [' ']) = trim s := by
  obtain ⟨c, s, rfl⟩ := List.exists_cons_of_ne_nil hne
  have hc : ¬ isBlank c = true := by
    rw [hfirst c rfl]
    exact Bool.false_ne_true
  rw [trim, trim, List.cons_append, trimStart, trimStart, List.dropWhile_cons_of_neg hc,
    List.dropWhile_cons_of_neg hc, ← List.cons_append, trimEnd, trimEnd, List.reverse_append]
  rfl

theorem quoted_ends (s : List Char) : (∀ c ∈ (quoted s).head?, isBlank c = false) ∧
    ∀ c ∈ (quoted s).getLast?, isBlank c = false := by
  constructor
  · intro c hc
    obtain rfl : '"' = c := Option.some.inj hc
    decide
  · intro c hc
    rw [quoted, ← List.cons_append, List.getLast?_concat] at hc
    obtain rfl : '"' = c := Option.some.inj hc
    decide

theorem trim_quoted (s : List Char) : trim (quoted s) = quoted s :=
  trim_eq_self (quoted_ends s).1 (quoted_ends s).2

/-! ## Strings -/

theorem escapesNext_of_forall_ne (h : ∀ c ∈ s, c ≠ '\\') : escapesNext s = false := by
  cases s with
  | nil => rfl
  | cons c s =>
    rw [escapesNext, List.takeWhile_cons_of_neg (by simpa using h c List.mem_cons_self)]
    rfl

theorem unescape?_of_not_mem (h : '\\' ∉ s) : unescape? s = some s := by
  induction s with
  | nil => rfl
  | cons c s ih =>
    have hc : c ≠ '\\' := fun e ↦ h (e ▸ List.mem_cons_self)
    rw [unescape?, ih fun hmem ↦ h (List.mem_cons_of_mem c hmem)]
    · rfl
    · rintro rfl -
      exact hc rfl
    · rintro d rest rfl -
      exact hc rfl

/-- Without backslashes there are no escapes. -/
theorem expand_of_not_mem (h : '\\' ∉ s) : expand s = .ok s := by
  have hnumbers (letter : Char) (width : Nat) : expandNumbers letter width s = .ok s := by
    rw [expandNumbers, splitAt_of_not_mem h]
    exact congrArg Except.ok (List.append_nil s)
  have hknown : escapesAreKnown false [s].tail = true := rfl
  rw [expand, List.splitOn_eq_singleton h, if_pos hknown]
  simp only [hnumbers, unescape?_of_not_mem h]

@[simp] theorem inner_quoted (s : List Char) : inner (quoted s) = s :=
  List.dropLast_concat

theorem dropQuotes_quoted (h : '"' ∉ s) : dropQuotes '"' (quoted s) = s := by
  match s with
  | [] => rfl
  | [c] =>
    have hc : c ≠ '"' := fun e ↦ h (e ▸ List.mem_cons_self)
    rw [quoted, List.singleton_append, dropQuotes, if_neg fun hboth ↦ hc hboth.1]
    exact inner_quoted [c]
  | c :: d :: s =>
    have hc : c ≠ '"' := fun e ↦ h (e ▸ List.mem_cons_self)
    rw [quoted, List.cons_append, List.cons_append, dropQuotes, if_neg fun hboth ↦ hc hboth.1]
    exact inner_quoted (c :: d :: s)

theorem readString_quoted (h : ∀ c ∈ value, IsPlain c) :
    readString '"' (quoted value) = .ok (String.ofList value) := by
  have hquote : '"' ∉ value := fun hmem ↦ absurd (h _ hmem) (by decide)
  have hslash : '\\' ∉ quoted value := by
    rw [quoted, List.mem_cons, List.mem_append, List.mem_singleton]
    rintro (hmem | hmem | hmem)
    · exact absurd hmem (by decide)
    · exact absurd (h _ hmem) (by decide)
    · exact absurd hmem (by decide)
  have hparts : (quoted value).tail.splitOn '"' = [value, []] := splitOn_concat hquote
  rw [readString, hparts, if_pos rfl, expand_of_not_mem hslash]
  cases value with
  | nil => rfl
  | cons c s =>
    have hescapes : escapesNext (c :: s).reverse = false :=
      escapesNext_of_forall_ne fun d hd ↦ (h d (List.mem_reverse.mp hd)).ne (by decide)
    have hclean : endsCleanly false false 0 [c :: s, []] = true := by
      simp only [endsCleanly, hescapes, Bool.false_eq_true, if_false, Bool.not_false, Bool.true_or,
        if_true]
    refine (if_pos hclean).trans ?_
    exact congrArg (fun s ↦ Except.ok (String.ofList s)) (dropQuotes_quoted hquote)

theorem readValue_quoted (fuel : Nat) (h : ∀ c ∈ value, IsPlain c) :
    readValue (fuel + 1) (quoted value) = .ok (.leaf (.text (String.ofList value))) := by
  have hread := readString_quoted h
  rw [quoted] at hread ⊢
  rw [readValue, if_pos (by decide), hread]
  · rfl
  · simp
  · simp

/-- A plain string ends on its line. -/
theorem goesOn_quoted (h : '"' ∉ value) : goesOn (quoted value) = .ok false := by
  cases value with
  | nil => rfl
  | cons c s =>
    have hc : '"' ≠ c := fun e ↦ h (e ▸ List.mem_cons_self)
    have hlength : ¬ (quoted (c :: s)).length < 3 := by simp [quoted]
    rw [goesOn, if_neg hlength]
    · simp [quoted, opensMultiline, hc, isQuote]
    · simp [quoted]

/-! ## Entries -/

namespace IsPlainEntry

variable (h : IsPlainEntry key value)

include h

/-- No equals sign and no single quote is written in a key. -/
theorem not_mem_writeKey (hd : ¬ IsKeyChar d) (hquote : d ≠ '"') : d ∉ writeKey key := by
  have hkey : d ∉ key := fun hmem ↦ hd (h.key_chars d hmem)
  by_cases hdot : '.' ∈ key
  · rw [h.writeKey_of_mem hdot, quoted]
    simp [hkey, hquote]
  · rw [h.writeKey_of_not_mem hdot]
    exact hkey

/-- White space stands at neither end of a key. -/
theorem writeKey_ends : (∀ c ∈ (writeKey key).head?, isBlank c = false) ∧
    ∀ c ∈ (writeKey key).getLast?, isBlank c = false := by
  by_cases hdot : '.' ∈ key
  · rw [h.writeKey_of_mem hdot]
    exact quoted_ends key
  · rw [h.writeKey_of_not_mem hdot]
    exact ⟨fun c hc ↦ (h.key_chars c (List.mem_of_mem_head? hc)).isBlank_eq_false,
      fun c hc ↦ (h.key_chars c (List.mem_of_mem_getLast? hc)).isBlank_eq_false⟩

theorem writeKey_ne_nil : writeKey key ≠ [] := by
  by_cases hdot : '.' ∈ key
  · rw [h.writeKey_of_mem hdot]
    exact List.cons_ne_nil '"' _
  · rw [h.writeKey_of_not_mem hdot]
    exact h.key_ne_nil

/-- A line starts with its key, and so with no bracket, and it ends in a quote. -/
theorem exists_entryLine_eq_cons :
    ∃ c ∈ (writeKey key).head?, ∃ rest, entryLine key value = c :: (rest ++ ['"']) := by
  obtain ⟨c, s, hkey⟩ := List.exists_cons_of_ne_nil h.writeKey_ne_nil
  refine ⟨c, by rw [hkey]; rfl, s ++ ' ' :: '=' :: ' ' :: '"' :: value, ?_⟩
  rw [entryLine, hkey, quoted]
  simp

theorem trim_entryLine : trim (entryLine key value) = entryLine key value := by
  obtain ⟨c, hc, rest, hline⟩ := h.exists_entryLine_eq_cons
  rw [hline]
  refine trim_eq_self (fun d hd ↦ ?_) fun d hd ↦ ?_
  · obtain rfl : c = d := Option.some.inj hd
    exact h.writeKey_ends.1 c hc
  · rw [← List.cons_append, List.getLast?_concat] at hd
    obtain rfl : '"' = d := Option.some.inj hd
    decide

/-- The first equals sign outside quotes is the first one of all: that behind the key. -/
theorem firstOutside_entryLine : firstOutside ['='] (entryLine key value) = 1 := by
  have hkey {d : Char} (hd : ¬ IsKeyChar d) : d ∉ key := fun hmem ↦ hd (h.key_chars d hmem)
  rw [firstOutside, entryLine]
  by_cases hdot : '.' ∈ key
  · have hparts : splitAtQuotes (quoted key ++ ' ' :: '=' :: ' ' :: quoted value)
        = [] :: key :: [' ', '=', ' '] :: (value ++ ['"']).splitOn '"' := by
      rw [quoted, List.cons_append, ← List.nil_append ('"' :: _),
        splitAtQuotes_append_cons (by simp) (by simp), List.append_assoc, List.singleton_append,
        List.splitOn_append_cons_self_of_not_mem (hkey (by decide)), quoted]
      rfl
    rw [h.writeKey_of_mem hdot, hparts, firstOutsideOf, firstOutsideOf, firstOutsideOf,
      occurrences_of_not_mem (hkey (by decide))]
    rfl
  · have hparts : splitAtQuotes (key ++ ' ' :: '=' :: ' ' :: quoted value)
        = (key ++ [' ', '=', ' ']) :: (value ++ ['"']).splitOn '"' := by
      have hsplit : key ++ ' ' :: '=' :: ' ' :: quoted value
          = (key ++ [' ', '=', ' ']) ++ '"' :: (value ++ ['"']) := by
        rw [List.append_assoc]
        rfl
      rw [hsplit, splitAtQuotes_append_cons]
      · simp [hkey (d := '"') (by decide)]
      · simp [hkey (d := '\'') (by decide)]
    have hsign : occurrences ['='] (key ++ [' ', '=', ' ']) ≠ 0 := by
      rw [List.append_cons]
      refine occurrences_append_cons_ne_zero ?_
      simp [hkey (d := '=') (by decide)]
    rw [h.writeKey_of_not_mem hdot, hparts, firstOutsideOf, if_pos]
    simp [hsign]

/-- The line of an entry is cut behind its key, whatever its value contains. -/
theorem splitLine?_entryLine :
    ∃ isTidy, splitLine? (entryLine key value) = some ⟨writeKey key, quoted value, isTidy⟩ := by
  obtain ⟨part, parts, hvalue⟩ := List.exists_cons_of_ne_nil
    (List.splitOn_ne_nil '=' (' ' :: quoted value))
  have hsplit : (entryLine key value).splitOn '=' = (writeKey key ++ [' ']) :: part :: parts := by
    have hsign : '=' ∉ writeKey key ++ [' '] := by
      simp [h.not_mem_writeKey (d := '=') (by decide) (by decide)]
    rw [entryLine, List.append_cons, List.splitOn_append_cons_self_of_not_mem hsign, hvalue]
  have hjoin : join ['='] (part :: parts) = ' ' :: quoted value := by
    rw [join, ← hvalue, List.intercalate_splitOn]
  have hkey : trim (writeKey key ++ [' ']) = writeKey key := by
    rw [trim_append_space h.writeKey_ne_nil h.writeKey_ends.1,
      trim_eq_self h.writeKey_ends.1 h.writeKey_ends.2]
  have hdigits : dropUnderscores (' ' :: quoted value) = ' ' :: quoted value := rfl
  have hstarts : startsValue (' ' :: quoted value) = true := rfl
  refine ⟨isTidyNumber (' ' :: quoted value), ?_⟩
  rw [splitLine?, hsplit, h.firstOutside_entryLine]
  simp only [List.length_cons, Nat.add_sub_cancel, Nat.min_eq_left (Nat.le_add_left 1 parts.length),
    List.take_succ_cons, List.take_zero, List.drop_succ_cons, List.drop_zero, hjoin, hdigits,
    hstarts, if_true, Option.map_some]
  rw [trim_space_cons, trim_quoted, join, List.intercalate_singleton, hkey]

/-- A key is one name, also where it has dots in it. -/
theorem keyNames_writeKey : keyNames (writeKey key) = .ok ([], String.ofList key) := by
  have hkey {d : Char} (hd : ¬ IsKeyChar d) : d ∉ key := fun hmem ↦ hd (h.key_chars d hmem)
  unfold keyNames
  by_cases hdot : '.' ∈ key
  · have htrim : trim key = key :=
      trim_eq_self (fun c hc ↦ (h.key_chars c (List.mem_of_mem_head? hc)).isBlank_eq_false)
        fun c hc ↦ (h.key_chars c (List.mem_of_mem_getLast? hc)).isBlank_eq_false
    have hcontains : (quoted key).contains '.' = true := by simp [quoted, hdot]
    have hquotes : (quoted key).any isQuote = true := rfl
    have hnames : dropEmptyEnd (namesBetween false [[], key, []]) = [[], key] := by
      have hempty : key.isEmpty = false := by simpa using h.key_ne_nil
      simp [namesBetween, dropEmptyEnd, trim, trimStart, trimEnd, hempty]
    rw [h.writeKey_of_mem hdot, if_pos hcontains, if_pos hquotes,
      splitAtQuotes_quoted (hkey (by decide))]
    simp only [hnames]
    simp [htrim]
  · have hcontains : ¬ key.contains '.' = true := by simpa using hdot
    rw [h.writeKey_of_not_mem hdot, if_neg hcontains]
    obtain ⟨c, s, rfl⟩ := List.exists_cons_of_ne_nil h.key_ne_nil
    have hquote : isQuote c = false := by
      rw [isQuote, Bool.or_eq_false_iff, beq_eq_false_iff_ne, beq_eq_false_iff_ne]
      have hc := h.key_chars c List.mem_cons_self
      exact ⟨hc.ne (by decide), hc.ne (by decide)⟩
    simp [hquote]

end IsPlainEntry

/-- The table of some strings. -/
def textTable (entries : List (List Char × List Char)) : Item :=
  .table false (entries.map fun e ↦ (String.ofList e.1, .leaf (.text (String.ofList e.2))))

theorem fst_ne_of_mem_textTable {entries : List (List Char × List Char)}
    (h : key ∉ entries.map Prod.fst) {e : String × Item}
    (he : e ∈ entries.map fun e ↦ (String.ofList e.1, Item.leaf (.text (String.ofList e.2)))) :
    e.1 ≠ String.ofList key := by
  obtain ⟨d, hd, rfl⟩ := List.mem_map.mp he
  intro heq
  exact h (List.mem_map.mpr ⟨d, hd, String.ofList_injective heq⟩)

theorem insert_textTable {entries : List (List Char × List Char)}
    (h : key ∉ entries.map Prod.fst) :
    (textTable entries).insert [] (String.ofList key) (.leaf (.text (String.ofList value)))
      = some (textTable (entries ++ [(key, value)])) := by
  have hnone : (textTable entries).named? (String.ofList key) = none := by
    rw [textTable, Item.named?, List.lookup_eq_none_iff]
    intro e he
    exact bne_iff_ne.mpr (fst_ne_of_mem_textTable h he).symm
  have hput : (textTable entries).putEntry (String.ofList key) (.leaf (.text (String.ofList value)))
      = textTable (entries ++ [(key, value)]) := by
    rw [textTable, Item.putEntry, Association.put_of_forall_ne fun e he ↦
      beq_eq_false_iff_ne.mpr (fst_ne_of_mem_textTable h he), textTable, List.map_append]
    rfl
  rw [textTable] at hnone hput ⊢
  simp only [Item.insert, List.map_nil, Item.at?, hnone, Option.isSome_none, Bool.false_eq_true,
    if_false, Item.modify, hput]

/-- An entry under a new key is added at the end. -/
theorem readEntry_entryLine (fuel : Nat) {entries : List (List Char × List Char)}
    (h : IsPlainEntry key value) (hnew : key ∉ entries.map Prod.fst) :
    readEntry (fuel + 2) (entryLine key value) (textTable entries)
      = .ok (textTable (entries ++ [(key, value)]), none) := by
  obtain ⟨isTidy, hsplit⟩ := h.splitLine?_entryLine
  have hquote : '"' ∉ value := fun hmem ↦ absurd (h.value_chars _ hmem) (by decide)
  have hnumber : (Item.leaf (.text (String.ofList value))).isNumber = false := rfl
  rw [readEntry, hsplit]
  simp only [h.keyNames_writeKey, Item.reach, goesOn_quoted hquote,
    readValue_quoted fuel h.value_chars, hnumber, Bool.false_and, Bool.false_eq_true, if_false,
    insert_textTable hnew]

/-! ## Tables -/

namespace Reading

/-- The state after some entries. -/
def ofEntries (entries : List (List Char × List Char)) : Reading :=
  { tree := { root := textTable entries } }

theorem line_entryLine (fuel : Nat) {entries : List (List Char × List Char)}
    (h : IsPlainEntry key value) (hnew : key ∉ entries.map Prod.fst) :
    (ofEntries entries).line (fuel + 2) (entryLine key value)
      = .ok (ofEntries (entries ++ [(key, value)])) := by
  obtain ⟨c, hc, rest, hline⟩ := h.exists_entryLine_eq_cons
  have hmem : c ∈ writeKey key := List.mem_of_mem_head? hc
  have hbracket : c ≠ '[' := fun e ↦ h.not_mem_writeKey (by decide) (by decide) (e ▸ hmem)
  have hbrace : c ≠ '\x7b' := fun e ↦ h.not_mem_writeKey (by decide) (by decide) (e ▸ hmem)
  have hsign : (entryLine key value).contains '=' = true := by simp [entryLine]
  have hblank : ¬ (entryLine key value).isEmpty = true := by simp [hline]
  have hstart : (ofEntries entries).startLine (fuel + 2) (entryLine key value)
      = (ofEntries entries).change (readEntry (fuel + 2) (entryLine key value)) := by
    rw [hline] at hsign ⊢
    rw [startLine, if_pos hsign]
    · rintro rest' ⟨⟩
      exact hbracket rfl
    · rintro rest' ⟨⟩
      exact hbrace rfl
  have hchange : (ofEntries entries).change (readEntry (fuel + 2) (entryLine key value))
      = .ok (ofEntries (entries ++ [(key, value)])) :=
    congrArg (Except.map _) (readEntry_entryLine fuel h hnew)
  rw [line, h.trim_entryLine]
  exact (if_neg hblank).trans (hstart.trans hchange)

theorem lines_entryLines (fuel : Nat) {found entries : List (List Char × List Char)}
    (h : ∀ e ∈ entries, IsPlainEntry e.1 e.2) (hnodup : ((found ++ entries).map Prod.fst).Nodup) :
    (ofEntries found).lines (fuel + 2) (entries.map (fun e ↦ entryLine e.1 e.2) ++ [[]])
      = .ok (ofEntries (found ++ entries)) := by
  induction entries generalizing found with
  | nil =>
    rw [List.append_nil]
    rfl
  | cons e rest ih =>
    have hnew : e.1 ∉ found.map Prod.fst := by
      rw [List.map_append, List.nodup_append] at hnodup
      intro hmem
      exact hnodup.2.2 _ hmem _ List.mem_cons_self rfl
    have happend : found ++ e :: rest = found ++ [e] ++ rest := List.append_cons ..
    rw [happend] at hnodup ⊢
    rw [List.map_cons, List.cons_append, lines,
      line_entryLine fuel (h e List.mem_cons_self) hnew]
    exact ih (fun d hd ↦ h d (List.mem_cons_of_mem e hd)) hnodup

end Reading

/-- The document of a table of strings. -/
theorem document_textTable (entries : List (List Char × List Char)) :
    (textTable entries).document
      = .map (entries.map fun e ↦
          (.text (String.ofList e.1), .scalar (.text (String.ofList e.2)))) := by
  have hentries : ∀ entries : List (List Char × List Char),
      Item.documentsOf (entries.map fun e ↦
          (String.ofList e.1, .leaf (.text (String.ofList e.2))))
        = entries.map fun e ↦ (.text (String.ofList e.1), .scalar (.text (String.ofList e.2))) := by
    intro entries
    induction entries with
    | nil => rfl
    | cons e rest ih =>
      rw [List.map_cons, Item.documentsOf, ih]
      rfl
  rw [textTable, Item.document, hentries]

/-- **What is written is read.** -/
theorem read_write {entries : List (List Char × List Char)}
    (h : ∀ e ∈ entries, IsPlainEntry e.1 e.2) (hnodup : (entries.map Prod.fst).Nodup) :
    read (write entries)
      = .ok (.map (entries.map fun e ↦
          (.text (String.ofList e.1), .scalar (.text (String.ofList e.2))))) := by
  have hkeys : (([] ++ entries).map Prod.fst).Nodup := hnodup
  have hlines : Reading.lines {} (2 * (write entries).length + 2)
      (entries.map (fun e ↦ entryLine e.1 e.2) ++ [[]]) = .ok (.ofEntries entries) :=
    Reading.lines_entryLines (2 * (write entries).length) h hkeys
  rw [read, logicalLines_write h]
  simp only
  rw [hlines, Except.map, Reading.ofEntries, document_textTable]

end TableProperties.Toml
