import TableProperties.CommandLine.Run
import TableProperties.Proofs.CommandLine.Arguments
import TableProperties.Proofs.Json
import TableProperties.Proofs.Property.Value

/-!
# What a run of the program ends with

A command that reads properties ends in one of three ways: it prints one JSON object and has status
0, it reports one error and has status 1, or the command line is at fault and the program stops
before it does anything. There is a fourth way: a few faults of data files are none of the kinds
that are reported, and end the program without a status of its own. This happens exactly if the file
named on the command line can be read as text, has the suffix of YAML or TOML, and its text breaks
off with such a fault.

## Main statements

* `load_eq_error_iff_escapesFrom`: which files have such faults.
* `run_boundary`: the ways in which a run ends.
-/

namespace TableProperties

/-! ## Faults that are not reported -/

/-- The faults of YAML texts that are not reported. -/
inductive Yaml.Fault.Escapes : Yaml.Fault → Prop
  | notBoolean (text : List Char) : Escapes (.notBoolean text)
  | emptyNumber : Escapes .emptyNumber
  | notTimestamp : Escapes .notTimestamp
  | timestampMapping : Escapes .timestampMapping
  | powerTooLarge : Escapes .powerTooLarge
  | codePoint {n : Nat} (h : 2 ^ 31 ≤ n) : Escapes (.codePoint n)

theorem Yaml.Fault.isReported_eq_false_iff {fault : Yaml.Fault} :
    fault.isReported = false ↔ fault.Escapes := by
  constructor
  · intro h
    cases fault with
    | notBoolean text => exact .notBoolean text
    | emptyNumber => exact .emptyNumber
    | notTimestamp => exact .notTimestamp
    | timestampMapping => exact .timestampMapping
    | powerTooLarge => exact .powerTooLarge
    | codePoint n => exact .codePoint (Nat.le_of_not_lt (of_decide_eq_false h))
    | _ => exact absurd h (by simp [isReported])
  · rintro (_ | _ | _ | _ | _ | h)
    · rfl
    · rfl
    · rfl
    · rfl
    · rfl
    · exact decide_eq_false (Nat.not_lt.mpr h)

theorem Toml.Fault.isReported_eq_false_iff {fault : Toml.Fault} :
    fault.isReported = false ↔ fault ≠ .malformed ∧ fault ≠ .tooLong := by
  simp [isReported]

/-- A file can be read as text, and reading the text in the format of the file breaks off with a
fault that is not reported. -/
def LoadFault.EscapesFrom (w : Workspace) (path : Path) (fault : LoadFault) : Prop :=
  ∃ bytes s, w.readBytes path = .ok bytes ∧ textOfBytes bytes = .ok s ∧
    ((FileFormat.ofSuffix? path.suffix = some .yaml ∧
        ∃ f, Yaml.read s = .error f ∧ f.Escapes ∧ fault = .text (.yaml f)) ∨
      (FileFormat.ofSuffix? path.suffix = some .toml ∧
        ∃ f, Toml.read s.toList = .error f ∧ f ≠ .malformed ∧ f ≠ .tooLong ∧
          fault = .text (.toml f)))

variable {w : Workspace} {path : Path} {fault : LoadFault}

theorem textOfBytes_isReported {bytes : ByteArray} (h : textOfBytes bytes = .error fault) :
    fault.isReported = true := by
  unfold textOfBytes at h
  split at h
  · exact Except.error.inj h ▸ rfl
  · exact absurd h (by simp)

theorem Document.properties_isReported {d : Document} (h : d.properties = .error fault) :
    fault.isReported = true := by
  unfold Document.properties at h
  split at h
  · obtain ⟨e, -, rfl⟩ := Except.mapError_eq_error_iff.mp h
    rfl
  · exact Except.error.inj h ▸ rfl

theorem Workspace.readBytes_isReported (h : w.readBytes path = .error fault) :
    fault.isReported = true := by
  unfold Workspace.readBytes at h
  split at h
  · exact Except.error.inj h ▸ rfl
  · obtain ⟨e, -, rfl⟩ := Except.mapError_eq_error_iff.mp h
    rfl
  · exact Except.error.inj h ▸ rfl

/-- A document that cannot be read is at fault in a way that depends on the format. -/
theorem FileFormat.read_eq_error_iff {format : FileFormat} {s : String} {fault : SyntaxFault}
    (hreported : (LoadFault.text fault).isReported = false) :
    format.read s = .error fault ↔
      (format = .yaml ∧ ∃ f, Yaml.read s = .error f ∧ f.Escapes ∧ fault = .yaml f) ∨
        (format = .toml ∧ ∃ f, Toml.read s.toList = .error f ∧ f ≠ .malformed ∧ f ≠ .tooLong ∧
          fault = .toml f) := by
  cases format with
  | yaml =>
    have hread : FileFormat.yaml.read s = (Yaml.read s).mapError .yaml := rfl
    rw [hread, Except.mapError_eq_error_iff]
    constructor
    · rintro ⟨f, hf, rfl⟩
      exact .inl ⟨rfl, f, hf, Yaml.Fault.isReported_eq_false_iff.mp hreported, rfl⟩
    · rintro (⟨-, f, hf, -, rfl⟩ | ⟨hformat, -⟩)
      · exact ⟨f, hf, rfl⟩
      · exact absurd hformat (by simp)
  | json =>
    constructor
    · intro h
      rw [FileFormat.read] at h
      split at h
      · exact absurd hreported (by simp [← Except.error.inj h, LoadFault.isReported])
      · obtain ⟨f, -, rfl⟩ := Except.mapError_eq_error_iff.mp h
        exact absurd hreported (by simp [LoadFault.isReported])
    · rintro (⟨hformat, -⟩ | ⟨hformat, -⟩) <;> exact absurd hformat (by simp)
  | toml =>
    have hread : FileFormat.toml.read s = (Toml.read s.toList).mapError .toml := rfl
    rw [hread, Except.mapError_eq_error_iff]
    constructor
    · rintro ⟨f, hf, rfl⟩
      obtain ⟨hmalformed, hlong⟩ := Toml.Fault.isReported_eq_false_iff.mp hreported
      exact .inr ⟨rfl, f, hf, hmalformed, hlong, rfl⟩
    · rintro (⟨hformat, -⟩ | ⟨-, f, hf, -, -, rfl⟩)
      · exact absurd hformat (by simp)
      · exact ⟨f, hf, rfl⟩

/-- **Which files have faults that are not reported.** -/
theorem load_eq_error_iff_escapesFrom :
    w.load path = .error fault ∧ fault.isReported = false ↔ fault.EscapesFrom w path := by
  constructor
  · rintro ⟨h, hreported⟩
    -- faults of all stages but the reading of the text are reported
    have hclash (hyes : fault.isReported = true) : fault.EscapesFrom w path :=
      absurd hreported (by simp [hyes])
    unfold Workspace.load at h
    split at h
    · next hbytes => exact hclash (Except.error.inj h ▸ Workspace.readBytes_isReported hbytes)
    · next bytes hbytes =>
      unfold propertiesOfBytes at h
      split at h
      · next hs => exact hclash (Except.error.inj h ▸ textOfBytes_isReported hs)
      · next s hs =>
        unfold propertiesOfText at h
        split at h
        · exact hclash (Except.error.inj h ▸ rfl)
        · next format hformat =>
          split at h
          · next f hread =>
            obtain rfl := Except.error.inj h
            refine ⟨bytes, s, hbytes, hs, ?_⟩
            rcases (FileFormat.read_eq_error_iff hreported).mp hread with
              ⟨rfl, f, hf, hescapes, rfl⟩ | ⟨rfl, f, hf, hmalformed, hlong, rfl⟩
            · exact .inl ⟨hformat, f, hf, hescapes, rfl⟩
            · exact .inr ⟨hformat, f, hf, hmalformed, hlong, rfl⟩
          · exact hclash (Document.properties_isReported h)
  · rintro ⟨bytes, s, hbytes, hs, ⟨hformat, f, hf, hescapes, rfl⟩ |
      ⟨hformat, f, hf, hmalformed, hlong, rfl⟩⟩
    · have hreported : (LoadFault.text (.yaml f)).isReported = false :=
        Yaml.Fault.isReported_eq_false_iff.mpr hescapes
      have hread : FileFormat.yaml.read s = .error (.yaml f) :=
        (FileFormat.read_eq_error_iff hreported).mpr (.inl ⟨rfl, f, hf, hescapes, rfl⟩)
      refine ⟨?_, hreported⟩
      rw [Workspace.load, hbytes]
      simp only [propertiesOfBytes, hs, propertiesOfText, hformat, hread]
    · have hreported : (LoadFault.text (.toml f)).isReported = false :=
        Toml.Fault.isReported_eq_false_iff.mpr ⟨hmalformed, hlong⟩
      have hread : FileFormat.toml.read s = .error (.toml f) :=
        (FileFormat.read_eq_error_iff hreported).mpr (.inr ⟨rfl, f, hf, hmalformed, hlong, rfl⟩)
      refine ⟨?_, hreported⟩
      rw [Workspace.load, hbytes]
      simp only [propertiesOfBytes, hs, propertiesOfText, hformat, hread]

theorem load_of_locate {names : List String} (hlocate : w.locate path = .ok (.inside names)) :
    w.load path =
      match w.root.at? names with
      | none => .error (.missing path.text)
      | some (.directory _) => .error (.file (.isDirectory path.text))
      | some (.file content) => propertiesOfBytes path content := by
  have hfind : w.find? path = w.root.at? names := by rw [Workspace.find?, hlocate]
  have hhas : w.has path = .ok (w.root.at? names).isSome := by rw [Workspace.has, hlocate, hfind]
  rw [Workspace.load, Workspace.readBytes, hhas, Workspace.read, hfind]
  cases w.root.at? names with
  | none => rfl
  | some tree =>
    cases tree with
    | file content => rfl
    | directory entries => rfl

/-! ## Reports -/

namespace CommandLine

variable {p : Provider} {a : Arguments} {load : Loader} {text : String}

/-- A text that is a JSON object on lines of its own, and is read back as its members. -/
def HoldsObject (text : String) : Prop :=
  ∃ members, text = line (String.ofList (Json.object .ascii members)) ∧
    Json.read text.toList = .ok (Document.ofEntries (members.map (Json.memberReadBack .ascii)))

theorem holdsObject_line {members : List (String × Json.Leaf)}
    (h : ∀ m ∈ members, m.2.IsShort) :
    HoldsObject (line (String.ofList (Json.object .ascii members))) := by
  refine ⟨members, rfl, ?_⟩
  have hlist : (line (String.ofList (Json.object .ascii members))).toList
      = Json.object .ascii members ++ ['\n'] := by
    rw [line, String.toList_append, String.toList_ofList]
    rfl
  rw [hlist]
  refine Json.read_object h fun c hc ↦ ?_
  rw [List.mem_singleton.mp hc]
  rfl

/-- The text of a configuration holds an object. -/
theorem holdsObject_configurationText (c : Configuration) : HoldsObject (configurationText c) := by
  refine holdsObject_line fun m hm ↦ ?_
  obtain ⟨⟨key, value⟩, -, rfl⟩ := List.mem_map.mp hm
  cases value with
  | none => trivial
  | some s => trivial

theorem isShort_leafOf {v : Value} (h : v.IsLong) : (leafOf v).IsShort := by
  cases v with
  | int n =>
    obtain ⟨hleast, hgreatest⟩ : -(2 ^ 63) ≤ n ∧ n < 2 ^ 63 := h
    have hlong : n.natAbs ≤ 2 ^ 63 := by omega
    have hbound : 2 ^ 63 < 10 ^ 20 := by decide
    have hmany : 10 ^ 20 ≤ 10 ^ Integer.maxDigits := Nat.pow_le_pow_right (by decide) (by decide)
    exact Nat.lt_of_lt_of_le (Nat.lt_of_le_of_lt hlong hbound) hmany
  | absent | bool | mode | text => trivial

/-- The values of built-in properties are printed with few digits. -/
theorem isShort_of_valuesOf {c : Configuration} {ps : List Property}
    {members : List (String × Json.Leaf)} (hps : ∀ p ∈ ps, p ∈ Catalog.all)
    (h : valuesOf c ps = .ok members) : ∀ m ∈ members, m.2.IsShort := by
  induction ps generalizing members with
  | nil =>
    obtain rfl : [] = members := Except.ok.inj h
    exact fun m hm ↦ absurd hm List.not_mem_nil
  | cons p ps ih =>
    rw [valuesOf] at h
    split at h
    · exact absurd h (by simp)
    · next v hv =>
      obtain ⟨others, hothers, rfl⟩ := Except.map_eq_ok_iff.mp h
      intro m hm
      rcases List.mem_cons.mp hm with rfl | hm
      · exact isShort_leafOf (Catalog.isLong_of_read (hps p List.mem_cons_self) hv)
      · exact ih (fun q hq ↦ hps q (List.mem_cons_of_mem p hq)) hothers m hm

theorem holdsObject_of_showValues {properties : Mapping String}
    (h : showValues properties = .ok text) : HoldsObject text := by
  obtain ⟨members, hmembers, rfl⟩ := Except.map_eq_ok_iff.mp h
  exact holdsObject_line (isShort_of_valuesOf (fun _ hp ↦ hp) hmembers)

/-- What a command that reads properties prints if all goes well. -/
theorem holdsObject_of_report (ha : a.command ≠ .listAll) (h : (report load p a).2 = .ok text) :
    HoldsObject text := by
  unfold report at h
  split at h
  · exact absurd h (by simp)
  · split at h
    · obtain ⟨stored, -, rfl⟩ := Except.map_eq_ok_iff.mp (Except.mapError_eq_ok_iff.mp h)
      exact holdsObject_configurationText stored
    · exact holdsObject_of_showValues (Except.mapError_eq_ok_iff.mp h)
    · next hlist => exact absurd hlist ha

theorem readProperties_eq_unreported_iff {config : Option String} :
    (readProperties load config).2 = .error (.unreported fault) ↔
      ∃ name, config = some name ∧ load (Path.ofText name) = .error fault ∧
        fault.isReported = false := by
  cases config with
  | none => simp [readProperties]
  | some name =>
    simp only [readProperties, Except.mapError_eq_error_iff, Option.some.injEq, failureOf]
    constructor
    · rintro ⟨e, he, hfailure⟩
      split at hfailure
      · exact absurd hfailure (by simp)
      · next hreported =>
        obtain rfl := Failure.unreported.inj hfailure
        exact ⟨name, rfl, he, Bool.eq_false_iff.mpr hreported⟩
    · rintro ⟨_, rfl, he, hreported⟩
      exact ⟨fault, he, if_neg (Bool.eq_false_iff.mp hreported)⟩

/-- Only loading a file can fail in a way that is not reported. -/
theorem report_eq_unreported_iff :
    (report load p a).2 = .error (.unreported fault) ↔
      ∃ name, a.config = some name ∧ load (Path.ofText name) = .error fault ∧
        fault.isReported = false := by
  rw [← readProperties_eq_unreported_iff, report]
  split
  · next hread => simp [hread]
  · next properties hread =>
    rw [hread]
    refine iff_of_false ?_ (by simp)
    split
    · intro h
      obtain ⟨e, -, he⟩ := Except.mapError_eq_error_iff.mp h
      exact absurd he (by simp)
    · intro h
      obtain ⟨e, -, he⟩ := Except.mapError_eq_error_iff.mp h
      exact absurd he (by simp)
    · simp

/-! ## Runs -/

/-- The outcome of a command whose log is not asked for. -/
theorem Report.outcome_false (r : Report) :
    r.outcome false =
      match r.2 with
      | .ok output => .ok ⟨0, output, ""⟩
      | .error (.reported e) => .ok ⟨1, "", "error: " ++ e.message ++ "\n"⟩
      | .error (.unreported fault) => .error fault := by
  obtain ⟨events, result⟩ := r
  cases result with
  | ok output => rfl
  | error failure =>
    cases failure with
    | reported e => simp [Report.outcome, line]
    | unreported fault => rfl

variable {c : Command} {rest : List String}

theorem run_word_cons (h : Arguments.ofWords (c.word :: rest) = .ok a) :
    run w p (c.word :: rest) = (report w.load p a).outcome false := by
  rw [run, runWith, h, ← (Arguments.eq_of_ofWords_word_cons h).2]

/-- The ways in which a run ends with a status. -/
inductive EndsOrderly (words : List String) : Outcome → Prop
  /-- The command line is at fault, or asks for help. -/
  | stopped {stop : Stop} (h : Arguments.ofWords words = .error stop)
      (hstatus : stop.outcome.status = 0 ∨ stop.outcome.status = 2) :
      EndsOrderly words stop.outcome
  /-- One object is printed. -/
  | printed {text : String} (h : HoldsObject text) : EndsOrderly words ⟨0, text, ""⟩
  /-- One error is reported. -/
  | reported (e : PropertyError) : EndsOrderly words ⟨1, "", "error: " ++ e.message ++ "\n"⟩

theorem Stop.status_outcome (stop : Stop) :
    stop.outcome.status = 0 ∨ stop.outcome.status = 2 := by
  cases stop with
  | help g => exact .inl rfl
  | usage g fault => exact .inr rfl

theorem endsOrderly_of_run {o : Outcome} (hc : c ≠ .listAll)
    (h : run w p (c.word :: rest) = .ok o) : EndsOrderly (c.word :: rest) o := by
  cases hwords : Arguments.ofWords (c.word :: rest) with
  | error stop =>
    rw [run, runWith, hwords] at h
    obtain rfl := Except.ok.inj h
    exact .stopped hwords stop.status_outcome
  | ok a =>
    have ha : a.command ≠ .listAll := (Arguments.eq_of_ofWords_word_cons hwords).1 ▸ hc
    rw [run_word_cons hwords, Report.outcome_false] at h
    split at h
    · next text htext =>
      obtain rfl := Except.ok.inj h
      exact .printed (holdsObject_of_report ha htext)
    · obtain rfl := Except.ok.inj h
      exact .reported _
    · exact absurd h (by simp)

theorem run_eq_error_iff :
    run w p (c.word :: rest) = .error fault ↔
      ∃ a name, Arguments.ofWords (c.word :: rest) = .ok a ∧ a.config = some name ∧
        fault.EscapesFrom w (Path.ofText name) := by
  cases hwords : Arguments.ofWords (c.word :: rest) with
  | error stop => simp [run, runWith, hwords]
  | ok a =>
    rw [run_word_cons hwords, Report.outcome_false]
    constructor
    · intro h
      split at h
      · exact absurd h (by simp)
      · exact absurd h (by simp)
      · next hreport =>
        obtain rfl := Except.error.inj h
        obtain ⟨name, hname, hload⟩ := report_eq_unreported_iff.mp hreport
        exact ⟨a, name, rfl, hname, load_eq_error_iff_escapesFrom.mp hload⟩
    · rintro ⟨_, name, heq, hname, hescapes⟩
      obtain rfl := Except.ok.inj heq
      rw [report_eq_unreported_iff.mpr
        ⟨name, hname, load_eq_error_iff_escapesFrom.mpr hescapes⟩]

/-- A file that cannot be loaded is named in the error. -/
theorem run_of_load_eq_error {name : String}
    (hwords : Arguments.ofWords (c.word :: rest) = .ok a) (hname : a.config = some name)
    (hload : w.load (Path.ofText name) = .error fault)
    (hreported : ¬ fault.EscapesFrom w (Path.ofText name)) :
    run w p (c.word :: rest) = .ok ⟨1, "", "error: " ++
      (PropertyError.file (Path.ofText name).text fault.message).message ++ "\n"⟩ := by
  have hfault : fault.isReported = true := by
    rw [← Bool.not_eq_false]
    exact fun h ↦ hreported (load_eq_error_iff_escapesFrom.mp ⟨hload, h⟩)
  have hread : (report w.load p a).2
      = .error (.reported (.file (Path.ofText name).text fault.message)) := by
    simp [report, readProperties, hname, hload, Except.mapError_error, failureOf, hfault]
  rw [run_word_cons hwords, Report.outcome_false, hread]

/-- **The ways in which a run ends.** A run of a command that reads properties fails to end with a
status exactly if the file that is named escapes. Otherwise one object is printed, one error is
reported, or the command line is at fault; and a file that cannot be loaded is named in the
error. -/
theorem run_boundary (w : Workspace) (p : Provider) (hc : c ≠ .listAll) (rest : List String) :
    (∀ fault, run w p (c.word :: rest) = .error fault ↔
      ∃ a name, Arguments.ofWords (c.word :: rest) = .ok a ∧ a.config = some name ∧
        fault.EscapesFrom w (Path.ofText name)) ∧
      (∀ o, run w p (c.word :: rest) = .ok o → EndsOrderly (c.word :: rest) o) ∧
      ∀ a name fault, Arguments.ofWords (c.word :: rest) = .ok a → a.config = some name →
        w.load (Path.ofText name) = .error fault →
          ¬ fault.EscapesFrom w (Path.ofText name) →
            run w p (c.word :: rest) = .ok ⟨1, "", "error: " ++
              (PropertyError.file (Path.ofText name).text fault.message).message ++ "\n"⟩ :=
  ⟨fun _ ↦ run_eq_error_iff, fun _ ↦ endsOrderly_of_run hc,
    fun _ _ _ ↦ run_of_load_eq_error⟩

theorem run_missing_file :
    run {} .fresh ["show", "-c", "p.json"] = .ok ⟨1, "",
      "error: Cannot load table properties from p.json: Properties file not found: p.json\n"⟩ := by
  have hc : Command.showValues ≠ .listAll := by decide
  have hlocate : ({} : Workspace).locate (Path.ofText "p.json") = .ok (.inside ["p.json"]) := by
    rw [Workspace.locate, String.contains_char_eq]
    decide +kernel
  have hload : ({} : Workspace).load (Path.ofText "p.json") = .error (.missing "p.json") := by
    rw [load_of_locate hlocate]
    decide +kernel
  have hreported : ¬ (LoadFault.missing "p.json").EscapesFrom {} (Path.ofText "p.json") := by
    intro h
    exact absurd (load_eq_error_iff_escapesFrom.mpr h).2 (by decide)
  refine ((run_boundary {} .fresh hc ["-c", "p.json"]).2.2
    ⟨false, .showValues, some "p.json", []⟩ "p.json" _ rfl rfl hload hreported).trans ?_
  decide +kernel

/-- A text marked as a truth value that is none is a fault that no command reports. -/
theorem run_of_marked_boolean :
    run ⟨.directory [("p.yaml", .file "a: !!bool x\n".toUTF8)]⟩ .fresh ["validate", "-c", "p.yaml"]
      = .error (.text (.yaml (.notBoolean ['x']))) := by
  have hlocate : (⟨.directory [("p.yaml", .file "a: !!bool x\n".toUTF8)]⟩ : Workspace).locate
      (Path.ofText "p.yaml") = .ok (.inside ["p.yaml"]) := by
    rw [Workspace.locate, String.contains_char_eq]
    decide +kernel
  have hload := load_of_locate hlocate
  refine run_eq_error_iff (c := .validate) |>.mpr
    ⟨⟨false, .validate, some "p.yaml", []⟩, "p.yaml", rfl, rfl, ?_⟩
  refine load_eq_error_iff_escapesFrom.mp ⟨hload.trans ?_, rfl⟩
  decide +kernel

end CommandLine

end TableProperties
