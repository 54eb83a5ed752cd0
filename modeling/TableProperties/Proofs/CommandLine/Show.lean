import TableProperties.Proofs.CommandLine.Overrides
import TableProperties.Proofs.CommandLine.Run
import TableProperties.Proofs.History

/-!
# The values that are shown

Validation matches the keys of a file with those of properties in any spelling, while the values that
are shown are read under the canonical keys alone. Where the properties of a file are accepted, all
values can be shown. The value of a property is then the one it has in the accepted batch if the last
spelling of its key in the file gives what the canonical spelling gives; an entry under any other
spelling is stored by validation but not seen by the other command.

## Main statements

* `Catalog.exists_read_of_validate`: every property has a value to show.
* `show_of_validate`: how they relate to the accepted batch.
* `show_misses_other_spelling`: they may differ.
-/

namespace TableProperties

/-! ## Values of a file that is accepted -/

namespace Catalog

variable {q : Property} {c stored : Configuration} {file : Mapping String}

/-- A text that is accepted under a canonical key is what the property is read from. -/
theorem exists_read_of_validate (hq : q ∈ all)
    (h : Registry.builtin.validate (CommandLine.toConfiguration file) = .ok stored) :
    ∃ v, q.read (CommandLine.toConfiguration file) = .ok v := by
  cases hget : file.get? q.key with
  | none =>
    have hempty : (CommandLine.toConfiguration file).get? q.key = Mapping.empty.get? q.key := by
      rw [CommandLine.toConfiguration, Mapping.get?_mapValues, hget]
      rfl
    rw [Property.read_congr hempty]
    exact exists_read_empty hq
  | some raw =>
    have hsome : (CommandLine.toConfiguration file).get? q.key = some (some raw) := by
      rw [CommandLine.toConfiguration, Mapping.get?_mapValues, hget]
      rfl
    have haccepted := (Registry.validate_eq_ok_iff.mp h).1 _ (Mapping.get?_eq_some_iff.mp hsome)
    have hlookup := Registry.lookup_builtin_eq_some_iff.mpr ⟨hq, rfl⟩
    rcases Registry.refusal?_eq_none_iff.mp haccepted with hfree | ⟨p, v, hp, -, hcheck⟩
    · exact absurd (isReserved_lowercase_key hq) (by simp [hfree])
    · obtain rfl := Option.some.inj (hlookup.symm.trans hp)
      exact ⟨v, (Property.read_of_get?_eq_some hsome).trans hcheck⟩

end Catalog

namespace CommandLine

variable {w : Workspace} {p p' : Provider} {words words' : List String} {a : Arguments}
  {text log name : String} {verbose verbose' : Bool} {config : Option String}
  {extras : List String} {file : Mapping String} {c : Configuration} {load : Loader}

/-! ## What is shown -/

/-- The text of the values of all properties. -/
def valuesText (value : Property → Value) : String :=
  line (String.ofList (Json.object .ascii (Catalog.all.map fun q ↦ (q.key, leafOf (value q)))))

theorem valuesOf_eq_ok {value : Property → Value} {ps : List Property}
    (h : ∀ q ∈ ps, q.read c = .ok (value q)) :
    valuesOf c ps = .ok (ps.map fun q ↦ (q.key, leafOf (value q))) := by
  induction ps with
  | nil => rfl
  | cons q ps ih =>
    rw [valuesOf, h q List.mem_cons_self, ih fun r hr ↦ h r (List.mem_cons_of_mem q hr)]
    rfl

theorem showValues_eq_ok {value : Property → Value}
    (h : ∀ q ∈ Catalog.all, q.read (toConfiguration file) = .ok (value q)) :
    showValues file = .ok (valuesText value) := by
  rw [showValues, valuesOf_eq_ok h]
  rfl

/-! ## Runs that print something -/

theorem Report.exists_outcome_iff {r : Report} :
    (∃ log, r.outcome verbose = .ok ⟨0, text, log⟩) ↔ r.2 = .ok text := by
  obtain ⟨events, result⟩ := r
  cases result with
  | ok output => simp [Report.outcome]
  | error failure =>
    cases failure with
    | reported e => simp [Report.outcome]
    | unreported fault => simp [Report.outcome]

theorem exists_run_iff (hwords : Arguments.ofWords words = .ok a) :
    (∃ log, run w p words = .ok ⟨0, text, log⟩) ↔ (report w.load p a).2 = .ok text := by
  rw [run, runWith, hwords]
  exact Report.exists_outcome_iff

theorem report_validate_eq_ok_iff :
    (report load p ⟨verbose, .validate, config, extras⟩).2 = .ok text ↔
      ∃ file, (readProperties load config).2 = .ok file ∧
        (validate p file (Overrides.ofWords extras)).2 = .ok text := by
  rw [report]
  cases hread : readProperties load config with
  | mk events result => cases result <;> simp

theorem report_showValues_eq_ok_iff :
    (report load p ⟨verbose, .showValues, config, extras⟩).2 = .ok text ↔
      ∃ file, (readProperties load config).2 = .ok file ∧ showValues file = .ok text := by
  rw [report]
  cases hread : readProperties load config with
  | mk events result => cases result <;> simp [Except.mapError_eq_ok_iff]

theorem readProperties_some_eq_ok_iff :
    (readProperties load (some name)).2 = .ok file ↔ load (Path.ofText name) = .ok file :=
  Except.mapError_eq_ok_iff

/-- The file of a working directory that holds nothing else. -/
theorem load_of_properties {s : String}
    (h : propertiesOfBytes (Path.ofText "p.json") s.toUTF8 = .ok file) :
    (⟨.directory [("p.json", .file s.toUTF8)]⟩ : Workspace).load (Path.ofText "p.json")
      = .ok file := by
  have hlocate : (⟨.directory [("p.json", .file s.toUTF8)]⟩ : Workspace).locate
      (Path.ofText "p.json") = .ok (.inside ["p.json"]) := by
    rw [Workspace.locate, String.contains_char_eq]
    rfl
  rw [load_of_locate hlocate]
  exact h

theorem run_of_report {c : Command} {rest : List String}
    (hwords : Arguments.ofWords (c.word :: rest) = .ok a)
    (h : (report w.load p a).2 = .ok text) : run w p (c.word :: rest) = .ok ⟨0, text, ""⟩ := by
  rw [run_word_cons hwords, Report.outcome_false, h]

/-- Without overrides, what is validated is what the file holds. -/
theorem validate_empty_eq_ok_iff :
    (validate p file (Overrides.ofWords [])).2 = .ok text ↔
      ∃ stored, p.registry.validate (toConfiguration file) = .ok stored ∧
        configurationText stored = text :=
  validate_eq_ok_iff

/-- What is stored for a built-in property is the value of the last spelling of its key. -/
theorem get?_key_of_validate_toConfiguration {q : Property} {stored : Configuration}
    (hq : q ∈ Catalog.all) (h : Registry.builtin.validate (toConfiguration file) = .ok stored) :
    stored.get? q.key = ((file.spellings q.key).getLast?.bind file.get?).map some := by
  have hkey : Registry.builtin.normalKey q.key = q.key :=
    (Catalog.normalKey_eq_key_iff hq).mpr rfl
  have hlast := Registry.get?_of_validate h (Registry.builtin.normalKey q.key)
  rw [toConfiguration, Mapping.lastValue?_mapValues, Mapping.lastValue?_normalKey, hkey] at hlast
  exact hlast

/-! ## Agreement -/

/-- **The values that are shown of an accepted file.** If the properties of a file are accepted, then
every property has a value that is shown, read under its canonical key; what the accepted batch
holds for it is what the last spelling of its key in the file gives. So the property has the same
value in the batch if that is also what the canonical spelling gives. -/
theorem show_of_validate (p' : Provider) (hp : p.overrides = [])
    (hvalidate : Arguments.ofWords words = .ok ⟨verbose, .validate, some name, []⟩)
    (hshow : Arguments.ofWords words' = .ok ⟨verbose', .showValues, some name, []⟩)
    (h : run w p words = .ok ⟨0, text, log⟩) :
    ∃ file stored value,
      w.load (Path.ofText name) = .ok file ∧
        Registry.builtin.validate (toConfiguration file) = .ok stored ∧
        configurationText stored = text ∧
        (∃ log, run w p' words' = .ok ⟨0, valuesText value, log⟩) ∧
        ∀ q ∈ Catalog.all,
          q.read (toConfiguration file) = .ok (value q) ∧
            stored.get? q.key = ((file.spellings q.key).getLast?.bind file.get?).map some ∧
            ((∀ last, (file.spellings q.key).getLast? = some last →
                file.get? last = file.get? q.key) →
              q.read stored = .ok (value q)) := by
  obtain ⟨file, hread, hvalid⟩ :=
    report_validate_eq_ok_iff.mp ((exists_run_iff hvalidate).mp ⟨log, h⟩)
  obtain ⟨stored, hstored, htext⟩ := validate_empty_eq_ok_iff.mp hvalid
  rw [Provider.registry_of_overrides_eq_nil hp] at hstored
  have : Nonempty Value := ⟨.absent⟩
  choose! value hvalue using fun q (hq : q ∈ Catalog.all) ↦
    Catalog.exists_read_of_validate hq hstored
  refine ⟨file, stored, value, readProperties_some_eq_ok_iff.mp hread, hstored, htext, ?_, ?_⟩
  · exact (exists_run_iff hshow).mpr
      (report_showValues_eq_ok_iff.mpr ⟨file, hread, showValues_eq_ok hvalue⟩)
  · intro q hq
    have hget := get?_key_of_validate_toConfiguration hq hstored
    refine ⟨hvalue q hq, hget, fun hagree ↦ (Property.read_congr ?_).trans (hvalue q hq)⟩
    rw [hget, toConfiguration, Mapping.get?_mapValues]
    cases hlast : (file.spellings q.key).getLast? with
    | some last => rw [Option.bind_some, hagree last hlast]
    | none =>
      -- without any spelling there is no canonical one
      have hnone : file.get? q.key = none := by
        rw [Mapping.get?_eq_none_iff]
        intro hmem
        obtain ⟨last, hlast'⟩ := Mapping.exists_getLast?_spellings hmem
        exact absurd (hlast'.symm.trans hlast) (by simp)
      rw [hnone]
      rfl

theorem show_of_last_spelling :
    ∃ stored value log,
      configurationText stored = "\x7b\n    \"delta.checkpointInterval\": \"5\"\n\x7d\n" ∧
        run ⟨.directory [("p.json", .file "\x7b\"DELTA.CHECKPOINTINTERVAL\": \"4\",
            \"delta.checkpointInterval\": \"5\"\x7d".toUTF8)]⟩ .fresh ["show", "-c", "p.json"]
          = .ok ⟨0, valuesText value, log⟩ ∧
        Catalog.checkpointInterval.read stored = .ok (value Catalog.checkpointInterval) := by
  have hmem : Catalog.checkpointInterval ∈ Catalog.all := by simp [Catalog.all]
  have hkey : Text.lowercase "DELTA.CHECKPOINTINTERVAL"
      = Text.lowercase Catalog.checkpointInterval.key :=
    Catalog.lowercase_eq_lowercase_key hmem (by decide +kernel) (by decide +kernel)
  have hfour : Catalog.checkpointInterval.check (some "4") = .ok (.int 4) := by decide +kernel
  have hfive : Catalog.checkpointInterval.check (some "5") = .ok (.int 5) := by decide +kernel
  have hproperties : propertiesOfBytes (Path.ofText "p.json")
      "\x7b\"DELTA.CHECKPOINTINTERVAL\": \"4\",
            \"delta.checkpointInterval\": \"5\"\x7d".toUTF8
        = .ok (.ofList [("DELTA.CHECKPOINTINTERVAL", "4"), ("delta.checkpointInterval", "5")]) := by
    decide +kernel
  generalize hfile : Mapping.ofList [("DELTA.CHECKPOINTINTERVAL", "4"),
    ("delta.checkpointInterval", "5")] = file at hproperties
  have hentries : (file.merge (Overrides.ofWords [])).entries
      = [("DELTA.CHECKPOINTINTERVAL", "4"), (Catalog.checkpointInterval.key, "5")] := by
    rw [← hfile]
    rfl
  have hspellings : file.spellings Catalog.checkpointInterval.key
      = ["DELTA.CHECKPOINTINTERVAL", Catalog.checkpointInterval.key] := by
    have hkeys : file.keys = ["DELTA.CHECKPOINTINTERVAL", Catalog.checkpointInterval.key] := by
      exact congrArg (List.map Prod.fst) hentries
    rw [Mapping.spellings, hkeys]
    simp [hkey]
  have hvalid : (validate .fresh file (Overrides.ofWords [])).2
      = .ok "\x7b\n    \"delta.checkpointInterval\": \"5\"\n\x7d\n" := by
    refine (validate_of_spellings rfl hmem rfl hentries ⟨hkey, _, hfour⟩ ⟨rfl, _, hfive⟩).trans ?_
    refine congrArg Except.ok ?_
    decide +kernel
  have hload := load_of_properties hproperties
  have hvalidate : Arguments.ofWords ["validate", "-c", "p.json"]
      = .ok ⟨false, .validate, some "p.json", []⟩ := rfl
  have hshow : Arguments.ofWords ["show", "-c", "p.json"]
      = .ok ⟨false, .showValues, some "p.json", []⟩ := rfl
  have hrun := run_of_report (c := .validate) hvalidate
    (report_validate_eq_ok_iff.mpr ⟨file, readProperties_some_eq_ok_iff.mpr hload, hvalid⟩)
  obtain ⟨other, stored, value, hother, -, htext, ⟨log, hshown⟩, hvalues⟩ :=
    show_of_validate .fresh rfl hvalidate hshow hrun
  obtain rfl := Except.ok.inj (hload.symm.trans hother)
  refine ⟨stored, value, log, htext, hshown, (hvalues _ hmem).2.2 fun last hlast ↦ ?_⟩
  rw [hspellings] at hlast
  rw [← Option.some.inj hlast]
  rfl

/-- A key that is not spelled as the canonical one is stored, but its value is not shown. -/
theorem show_misses_other_spelling :
    ∃ stored value,
      run ⟨.directory [("p.json", .file "\x7b\"DELTA.CHECKPOINTINTERVAL\": \"5\"\x7d".toUTF8)]⟩
          .fresh ["validate", "-c", "p.json"] = .ok ⟨0, configurationText stored, ""⟩ ∧
        run ⟨.directory [("p.json", .file "\x7b\"DELTA.CHECKPOINTINTERVAL\": \"5\"\x7d".toUTF8)]⟩
          .fresh ["show", "-c", "p.json"] = .ok ⟨0, valuesText value, ""⟩ ∧
        stored = .ofList [(Catalog.checkpointInterval.key, some "5")] ∧
        Catalog.checkpointInterval.read stored = .ok (.int 5) ∧
        value Catalog.checkpointInterval = .int 10 := by
  have hmem : Catalog.checkpointInterval ∈ Catalog.all := by simp [Catalog.all]
  have hkey : Text.lowercase "DELTA.CHECKPOINTINTERVAL"
      = Text.lowercase Catalog.checkpointInterval.key :=
    Catalog.lowercase_eq_lowercase_key hmem (by decide +kernel) (by decide +kernel)
  have hfive : Catalog.checkpointInterval.check (some "5") = .ok (.int 5) := by decide +kernel
  have hproperties : propertiesOfBytes (Path.ofText "p.json")
      "\x7b\"DELTA.CHECKPOINTINTERVAL\": \"5\"\x7d".toUTF8
        = .ok (.ofList [("DELTA.CHECKPOINTINTERVAL", "5")]) := by
    decide +kernel
  have hread := readProperties_some_eq_ok_iff.mpr (load_of_properties hproperties)
  have hstored : Registry.builtin.validate
      (toConfiguration (.ofList [("DELTA.CHECKPOINTINTERVAL", "5")]))
        = .ok (.ofList [(Catalog.checkpointInterval.key, some "5")]) := by
    refine Registry.validate_eq_ok_iff.mpr ⟨fun entry hentry ↦ ?_, ?_⟩
    · obtain rfl := List.mem_singleton.mp hentry
      exact Catalog.refusal?_eq_none hmem rfl hkey hfive
    · rw [← (Catalog.normalKey_eq_key_iff hmem).mpr hkey]
      rfl
  have haccepted : (validate .fresh (.ofList [("DELTA.CHECKPOINTINTERVAL", "5")])
      (Overrides.ofWords [])).2
        = .ok (configurationText (.ofList [(Catalog.checkpointInterval.key, some "5")])) := by
    rw [validate_empty_eq_ok_iff, Provider.registry_of_overrides_eq_nil rfl]
    exact ⟨_, hstored, rfl⟩
  have : Nonempty Value := ⟨.absent⟩
  choose! value hvalue using fun q (hq : q ∈ Catalog.all) ↦
    Catalog.exists_read_of_validate hq hstored
  have hten : Catalog.checkpointInterval.read
      (toConfiguration (.ofList [("DELTA.CHECKPOINTINTERVAL", "5")])) = .ok (.int 10) := by
    decide +kernel
  have hvalidate : Arguments.ofWords ["validate", "-c", "p.json"]
      = .ok ⟨false, .validate, some "p.json", []⟩ := rfl
  have hshow : Arguments.ofWords ["show", "-c", "p.json"]
      = .ok ⟨false, .showValues, some "p.json", []⟩ := rfl
  refine ⟨_, value, ?_, ?_, rfl, by decide +kernel, ?_⟩
  · exact run_of_report (c := .validate) hvalidate
      (report_validate_eq_ok_iff.mpr ⟨_, hread, haccepted⟩)
  · exact run_of_report (c := .showValues) hshow
      (report_showValues_eq_ok_iff.mpr ⟨_, hread, showValues_eq_ok hvalue⟩)
  · exact Except.ok.inj ((hvalue _ hmem).symm.trans hten)

end CommandLine

end TableProperties
