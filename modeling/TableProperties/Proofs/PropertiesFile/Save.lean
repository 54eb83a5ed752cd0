import Mathlib
import TableProperties.PropertiesFile.Save
import TableProperties.Proofs.Except
import TableProperties.Proofs.Files.Directories

/-!
# What saving changes

Saving makes the directories above a path, and then it looks at the suffix and opens the file. A
save that fails has made directories at most, whatever the reason is: it never writes a part of a
file. These directories stay, so that a failed save can leave something behind, but only where a
directory above the path was missing.

## Main statements

* `Workspace.save_eq_ok_iff`: saving is making directories and then writing.
* `Workspace.save_changes`: what is different after a save that fails, and after one that succeeds.
-/

namespace TableProperties

namespace Workspace

variable {w w' : Workspace} {p : Path} {properties : Mapping String}

theorem writeProperties_eq_ok_iff :
    w.writeProperties p properties = .ok w' ↔
      ∃ format, FileFormat.ofSuffix? p.suffix = some format ∧
        w.write p (Text.Utf8.encode (format.write properties)) = .ok w' := by
  rw [writeProperties]
  cases FileFormat.ofSuffix? p.suffix with
  | none => simp
  | some format =>
    simp only [Option.some.injEq, exists_eq_left', Except.mapError_eq_ok_iff]

theorem save_eq_ok_iff :
    w.save p properties = (w', .ok ()) ↔
      ∃ made, w.makeDirectories p.parent = (made, .ok ()) ∧
        ∃ format, FileFormat.ofSuffix? p.suffix = some format ∧
          made.write p (Text.Utf8.encode (format.write properties)) = .ok w' := by
  simp only [← writeProperties_eq_ok_iff]
  rw [save]
  cases w.makeDirectories p.parent with
  | mk made result =>
    cases result with
    | error fault => simp
    | ok =>
      cases hwrite : made.writeProperties p properties with
      | error fault => simp [hwrite]
      | ok next => simp [hwrite]

/-- A save that fails has made directories, and nothing else. -/
theorem eq_of_save_eq_error {fault : SaveFault} (h : w.save p properties = (w', .error fault)) :
    w' = (w.makeDirectories p.parent).1 := by
  rw [save] at h
  split at h
  · next hmade => rw [hmade, ← (Prod.mk.inj h).1]
  · next hmade =>
    split at h
    · rw [hmade, ← (Prod.mk.inj h).1]
    · exact absurd h (by simp)

/-- **What saving changes.** After a save that fails, whatever the reason is, every place in the
tree is as it was or is a directory above the path that was missing; where none of these is missing,
the tree is the same. This is so where a path that goes down only is blocked by a file above it or
by a directory. After a save that succeeds, the file at the path holds the properties, and every
other place is as it was or is such a directory. -/
theorem save_changes (w : Workspace) (p : Path) (properties : Mapping String) :
    (∀ w' fault, w.save p properties = (w', .error fault) →
      (∀ place, w.KeepsOrMakes w' p.parent place) ∧
      ((∀ q : Path, q.IsOnTheWayTo p.parent → ¬ w.Misses q) → w' = w) ∧
      (".." ∉ p.parts → w.IsBlocked p → w' = w)) ∧
    ∀ w', w.save p properties = (w', .ok ()) →
      ∃ file format, w'.locate p = .ok (.inside file) ∧
        FileFormat.ofSuffix? p.suffix = some format ∧
        w.entryAt? file ≠ some .directory ∧
        w'.entryAt? file = some (.file (Text.Utf8.encode (format.write properties))) ∧
        ∀ place, place ≠ file → w.KeepsOrMakes w' p.parent place := by
  refine ⟨fun w' fault h ↦ ?_, fun w' h ↦ ?_⟩
  · obtain rfl := eq_of_save_eq_error h
    exact ⟨keepsOrMakes_makeDirectories w p.parent, makeDirectories_of_not_misses,
      fun hup hblocked ↦ makeDirectories_of_not_misses fun q hway ↦
        not_misses_of_isBlocked hblocked hup hway⟩
  · obtain ⟨made, hmade, format, hformat, hwrite⟩ := save_eq_ok_iff.mp h
    have hkeeps : ∀ place, w.KeepsOrMakes made p.parent place := by
      intro place
      have := keepsOrMakes_makeDirectories w p.parent place
      rwa [hmade] at this
    obtain ⟨file, hlocate, hput⟩ := putsAt_write hwrite
    refine ⟨file, format, locate_write hwrite hlocate, hformat, fun hdirectory ↦ ?_,
      hput.entryAt?_eq, fun place hne ↦ ?_⟩
    · -- a directory would still be there when the file is opened
      rcases hkeeps file with heq | ⟨hnone, -⟩
      · exact hput.ne_directory (heq.trans hdirectory)
      · exact absurd (hnone.symm.trans hdirectory) (by simp)
    · exact (hkeeps place).of_entryAt?_eq hput.keepsDirectories (hput.entryAt?_eq_of_ne place hne)

/-- A directory stands where one file should be, and it stays when another file is saved. -/
theorem save_at_directory_and_beside :
    (∃ fault, (⟨.directory [("t.json", .directory [])]⟩ : Workspace).save (Path.ofText "t.json")
      (.ofList [("a", "b")]) = (⟨.directory [("t.json", .directory [])]⟩, .error fault)) ∧
    ∃ w', (⟨.directory [("t.json", .directory [])]⟩ : Workspace).save (Path.ofText "new/u.json")
      (.ofList [("a", "b")]) = (w', .ok ()) ∧ w'.entryAt? ["t.json"] = some .directory := by
  constructor
  · have hsave : ∃ w' fault, (⟨.directory [("t.json", .directory [])]⟩ : Workspace).save
        (Path.ofText "t.json") (.ofList [("a", "b")]) = (w', .error fault) :=
      ⟨⟨.directory [("t.json", .directory [])]⟩, .file (.isDirectory "t.json"), by cbv⟩
    obtain ⟨w', fault, hw'⟩ := hsave
    have hsame := ((save_changes _ _ _).1 w' fault hw').2.2 (by decide +kernel) (.inr (by cbv))
    exact ⟨fault, hw'.trans (congrArg (·, _) hsame)⟩
  · have hmade : (⟨.directory [("t.json", .directory [])]⟩ : Workspace).makeDirectories
        (Path.ofText "new/u.json").parent
        = (⟨.directory [("t.json", .directory []), ("new", .directory [])]⟩, .ok ()) := by
      cbv
    have hlocate : (⟨.directory [("t.json", .directory []), ("new", .directory [])]⟩
        : Workspace).locate (Path.ofText "new/u.json") = .ok (.inside ["new", "u.json"]) := by
      cbv
    have hnone : (FileTree.directory [("t.json", .directory []), ("new", .directory [])]).at?
        ["new", "u.json"] = none := by
      cbv
    have hdirectory : (⟨.directory [("t.json", .directory [])]⟩ : Workspace).entryAt? ["t.json"]
        = some .directory := by
      cbv
    have hsave : ∃ w', (⟨.directory [("t.json", .directory [])]⟩ : Workspace).save
        (Path.ofText "new/u.json") (.ofList [("a", "b")]) = (w', .ok ()) := by
      obtain ⟨w', hwrite⟩ := exists_write_iff.mpr ⟨_, hlocate, fun _ hat ↦ by simp [hnone] at hat⟩
      exact ⟨w', save_eq_ok_iff.mpr ⟨_, hmade, .json, by decide +kernel, hwrite⟩⟩
    obtain ⟨w', hw'⟩ := hsave
    obtain ⟨file, _, -, -, hfree, -, hkeeps⟩ := (save_changes _ _ _).2 w' hw'
    have hne : ["t.json"] ≠ file := fun heq ↦ hfree (heq ▸ hdirectory)
    refine ⟨w', hw', ?_⟩
    rcases hkeeps _ hne with heq | ⟨-, hmade, -⟩
    · exact heq.trans hdirectory
    · exact hmade

/-- The directory above a path without a known suffix is made before the suffix is looked at. -/
theorem save_unsupported_leaves_directory :
    ∃ w', ({} : Workspace).save (Path.ofText "out/x.txt") (.ofList [("a", "b")])
        = (w', .error (.unsupported ".txt")) ∧
      ({} : Workspace).entryAt? ["out"] = none ∧ w'.entryAt? ["out"] = some .directory :=
  ⟨⟨.directory [("out", .directory [])]⟩, by cbv, by cbv, by cbv⟩

end Workspace

end TableProperties
