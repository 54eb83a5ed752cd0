import Mathlib.Logic.Relation
import TableProperties.Proofs.Files.Tree

/-!
# Directories that are made

Making a directory with those on the way to it is a run of single steps, each of which makes one
directory where nothing was, and a run that fails is one that stops early. What a run does to a tree
is read off its steps: nothing that was there changes, and what is new are directories on the way.
Where no directory on the way is missing there is no first step, and the run changes nothing at all.

## Main statements

* `Workspace.makesMissing_makeDirectories`: directories are made one by one.
* `Workspace.keepsOrMakes_makeDirectories`: nothing else changes.
* `Workspace.makeDirectories_of_not_misses`: nothing changes where none is missing.
* `Workspace.not_misses_of_isBlocked`: none is missing on the way to a path that is blocked.
-/

namespace TableProperties

/-- A path to a directory through which another path leads, or that other path itself. -/
def Path.IsOnTheWayTo (q p : Path) : Prop :=
  q.root = p.root ∧ q.parts <+: p.parts

namespace Workspace

variable {w w' w'' : Workspace} {p q d : Path} {names place : List String}

/-- A path at which a directory could be made: it leads to a place in a directory where nothing
stands. A path that leads on from a missing directory, or from a file, leads to no place. -/
def Misses (w : Workspace) (p : Path) : Prop :=
  ∃ names, w.locate p = .ok (.inside names) ∧ w.root.at? names = none

/-! ## One directory -/

theorem makeDirectory_eq_ok (h : w.makeDirectory p = .ok w') :
    ∃ names, w.locate p = .ok (.inside names) ∧ w.root.at? names = none ∧
      w' = ⟨w.root.put names (.directory [])⟩ := by
  rw [makeDirectory] at h
  split at h
  · exact absurd h (by simp)
  · exact absurd h (by simp)
  · next names hlocate =>
    split at h
    · exact absurd h (by simp)
    · next hnone => exact ⟨names, hlocate, hnone, (Except.ok.inj h).symm⟩

theorem misses_of_makeDirectory (h : w.makeDirectory p = .ok w') : w.Misses p := by
  obtain ⟨names, hlocate, hnone, -⟩ := makeDirectory_eq_ok h
  exact ⟨names, hlocate, hnone⟩

/-- A new directory changes one place, to which the path leads and where nothing was. -/
theorem putsAt_makeDirectory (h : w.makeDirectory p = .ok w') :
    ∃ names, w.locate p = .ok (.inside names) ∧ w.entryAt? names = none ∧
      w.PutsAt w' names .directory := by
  obtain ⟨names, hlocate, hnone, rfl⟩ := makeDirectory_eq_ok h
  refine ⟨names, hlocate, by rw [entryAt?, hnone, Option.map_none], ?_⟩
  exact putsAt_put hlocate (fun _ ↦ rfl) fun entries hat ↦ absurd (hnone.symm.trans hat) (by simp)

/-! ## Runs -/

/-- One directory on the way to `d` is made. -/
def MakesMissing (d : Path) (w w' : Workspace) : Prop :=
  ∃ q : Path, q.IsOnTheWayTo d ∧ w.makeDirectory q = .ok w'

open Relation (ReflTransGen)

theorem makesMissing_ensureDirectory (hway : q.IsOnTheWayTo d)
    (h : w.ensureDirectory q = .ok w') : ReflTransGen (MakesMissing d) w w' := by
  rw [ensureDirectory] at h
  split at h
  · next hmade =>
    obtain rfl := Except.ok.inj h
    exact .single ⟨q, hway, hmade⟩
  · split at h
    · obtain rfl := Except.ok.inj h
      exact .refl
    · exact absurd h (by simp)

theorem makesMissing_makeDirectoriesFrom (w : Workspace) {parts : List String}
    (hway : Path.IsOnTheWayTo ⟨d.root, parts.reverse⟩ d) :
    ReflTransGen (MakesMissing d) w (w.makeDirectoriesFrom d.root parts).1 := by
  induction parts with
  | nil =>
    rw [makeDirectoriesFrom]
    split
    · next hensure => exact makesMissing_ensureDirectory hway hensure
    · exact .refl
  | cons part above ih =>
    have hparts : above.reverse <+: (part :: above).reverse := by simp
    have hrun := ih ⟨rfl, hparts.trans hway.2⟩
    rw [makeDirectoriesFrom]
    split
    · next hmade => exact .single ⟨_, hway, hmade⟩
    · -- the directories above come first
      split
      · next hfrom =>
        rw [hfrom] at hrun
        exact hrun
      · next hfrom =>
        rw [hfrom] at hrun
        split
        · next hensure => exact hrun.trans (makesMissing_ensureDirectory hway hensure)
        · exact hrun
    · split <;> exact .refl

/-- **Directories are made one by one.** Whatever stops the run, what is there afterwards was
reached by making single directories on the way. -/
theorem makesMissing_makeDirectories (w : Workspace) (d : Path) :
    ReflTransGen (MakesMissing d) w (w.makeDirectories d).1 := by
  have hway : Path.IsOnTheWayTo ⟨d.root, d.parts.reverse.reverse⟩ d :=
    ⟨rfl, (List.reverse_reverse d.parts).symm ▸ List.prefix_refl d.parts⟩
  exact makesMissing_makeDirectoriesFrom w hway

/-! ## What a run changes -/

/-- A place that is as it was, or a directory on the way to `d` that was missing. -/
def KeepsOrMakes (w w' : Workspace) (d : Path) (place : List String) : Prop :=
  w'.entryAt? place = w.entryAt? place ∨
    w.entryAt? place = none ∧ w'.entryAt? place = some .directory ∧
      ∃ q : Path, q.IsOnTheWayTo d ∧ w'.locate q = .ok (.inside place)

theorem KeepsOrMakes.of_entryAt?_eq (h : w.KeepsOrMakes w' d place)
    (hkeeps : w'.KeepsDirectories w'') (heq : w''.entryAt? place = w'.entryAt? place) :
    w.KeepsOrMakes w'' d place := by
  rcases h with h | ⟨hnone, hmade, q, hway, hlocate⟩
  · exact .inl (heq.trans h)
  · exact .inr ⟨hnone, heq.trans hmade, q, hway, locate_of_keepsDirectories hkeeps hlocate⟩

theorem keepsOrMakes_of_makesMissing (hrun : ReflTransGen (MakesMissing d) w w')
    (place : List String) : w.KeepsOrMakes w' d place := by
  induction hrun with
  | refl => exact .inl rfl
  | tail _ hstep ih =>
    obtain ⟨q, hway, hmade⟩ := hstep
    obtain ⟨names, hlocate, hnone, hput⟩ := putsAt_makeDirectory hmade
    by_cases hplace : place = names
    · -- nothing was there before the last step, hence nothing at the start
      subst hplace
      have hlocate' := locate_of_keepsDirectories hput.keepsDirectories hlocate
      rcases ih with heq | ⟨-, hsome, -⟩
      · exact .inr ⟨heq.symm.trans hnone, hput.entryAt?_eq, q, hway, hlocate'⟩
      · exact absurd (hnone.symm.trans hsome) (by simp)
    · exact ih.of_entryAt?_eq hput.keepsDirectories (hput.entryAt?_eq_of_ne place hplace)

/-- **Nothing else changes.** This holds of a run that fails as well. -/
theorem keepsOrMakes_makeDirectories (w : Workspace) (d : Path) (place : List String) :
    w.KeepsOrMakes (w.makeDirectories d).1 d place :=
  keepsOrMakes_of_makesMissing (makesMissing_makeDirectories w d) place

/-- Where no directory on the way is missing, none is made. -/
theorem makeDirectories_of_not_misses (h : ∀ q : Path, q.IsOnTheWayTo d → ¬ w.Misses q) :
    (w.makeDirectories d).1 = w := by
  -- a run that is not over has a first step, at a directory that is missing
  rcases (makesMissing_makeDirectories w d).cases_head with heq | ⟨_, ⟨q, hway, hmade⟩, -⟩
  · exact heq.symm
  · exact absurd (misses_of_makeDirectory hmade) (h q hway)

/-! ## Paths that go down only -/

/-- A path at which no file can be put: there is a file above it, or it leads to a directory. -/
def IsBlocked (w : Workspace) (p : Path) : Prop :=
  (∃ q content, q.IsOnTheWayTo p.parent ∧ w.read q = .ok content) ∨ w.hasDirectory p = true

/-- No path leads back into the working directory. -/
theorem walk_outside_ne (parts : List String) : w.walk .outside parts ≠ .ok (.inside names) := by
  induction parts with
  | nil => simp [walk]
  | cons part rest ih =>
    rw [walk]
    split
    · simp
    · next place hstep =>
      rw [step] at hstep
      split at hstep
      · rwa [← Except.ok.inj hstep]
      · split at hstep <;> exact absurd hstep (by simp)

theorem root_eq_of_locate (h : w.locate p = .ok (.inside names)) : p.root = "" := by
  have hwalk := walk_of_locate h
  by_cases hroot : p.root = ""
  · exact hroot
  · rw [if_neg hroot] at hwalk
    exact absurd hwalk (walk_outside_ne p.parts)

theorem eq_of_step_inside {part : String} {isLast : Bool} {location : Location}
    (h : w.step (.inside names) part isLast = .ok location) (hup : part ≠ "..") :
    location = .inside (names ++ [part]) := by
  rw [step] at h
  split at h
  · exact absurd h (by simp)
  · exact absurd h (by simp)
  · rw [if_neg hup] at h
    split at h
    · exact absurd h (by simp)
    · split at h
      · exact (Except.ok.inj h).symm
      · exact absurd h (by simp)

theorem eq_of_walk_inside {parts : List String} {location : Location}
    (h : w.walk (.inside names) parts = .ok location) (hup : ".." ∉ parts) :
    location = .inside (names ++ parts) := by
  induction parts generalizing names with
  | nil => rw [← Except.ok.inj h, List.append_nil]
  | cons part rest ih =>
    rw [List.mem_cons, not_or] at hup
    rw [walk] at h
    split at h
    · exact absurd h (by simp)
    · next hstep =>
      rw [eq_of_step_inside hstep (Ne.symm hup.1)] at h
      rw [ih h hup.2, List.append_assoc, List.singleton_append]

/-- A path that goes down only spells the place it leads to. -/
theorem eq_of_locate {location : Location} (h : w.locate p = .ok location) (hroot : p.root = "")
    (hup : ".." ∉ p.parts) : location = .inside p.parts := by
  have hwalk := walk_of_locate h
  rw [if_pos hroot] at hwalk
  exact eq_of_walk_inside hwalk hup

theorem at?_parts_of_find? {tree : FileTree} (h : w.find? p = some tree) (hroot : p.root = "")
    (hup : ".." ∉ p.parts) : w.root.at? p.parts = some tree := by
  rw [find?] at h
  split at h
  · exact absurd h (by simp)
  · next hlocate => exact absurd (eq_of_locate hlocate hroot hup) (by simp)
  · next hlocate =>
    obtain rfl := Location.inside.inj (eq_of_locate hlocate hroot hup)
    exact h

/-- What bars a path that goes down only: a file in one of its directories, or a directory. -/
theorem exists_barrier_of_isBlocked (h : w.IsBlocked p) (hroot : p.root = "")
    (hup : ".." ∉ p.parts) :
    ∃ names tree, names <+: p.parts ∧ w.root.at? names = some tree ∧
      ((∃ content, tree = .file content) ∨ names = p.parts) := by
  rcases h with ⟨q, content, ⟨hroot', hparts⟩, hread⟩ | hdirectory
  · have hfind : w.find? q = some (.file content) := by
      rw [read] at hread
      split at hread
      · exact absurd hread (by simp)
      · exact absurd hread (by simp)
      · next hfind => rwa [Except.ok.inj hread] at hfind
    have hparts' : q.parts <+: p.parts := hparts.trans (List.dropLast_prefix _)
    refine ⟨q.parts, _, hparts', ?_, .inl ⟨content, rfl⟩⟩
    exact at?_parts_of_find? hfind (hroot'.trans hroot) fun hmem ↦ hup (hparts'.subset hmem)
  · rw [hasDirectory] at hdirectory
    cases hfind : w.find? p with
    | none => exact absurd hdirectory (by simp [hfind])
    | some tree =>
      exact ⟨p.parts, tree, List.prefix_refl _, at?_parts_of_find? hfind hroot hup, .inr rfl⟩

/-- Where a path that goes down only is blocked, no directory on the way to it is missing: the ones
above the barrier are there, and nothing can be made below it. -/
theorem not_misses_of_isBlocked (h : w.IsBlocked p) (hup : ".." ∉ p.parts)
    (hway : q.IsOnTheWayTo p.parent) : ¬ w.Misses q := by
  rintro ⟨names, hlocate, hnone⟩
  have hroot : q.root = "" := root_eq_of_locate hlocate
  have hparts : q.parts <+: p.parts := hway.2.trans (List.dropLast_prefix _)
  obtain rfl : names = q.parts := by
    refine Location.inside.inj (eq_of_locate hlocate hroot fun hmem ↦ hup (hparts.subset hmem))
  obtain ⟨barrier, tree, hbarrier, hat, hkind⟩ :=
    exists_barrier_of_isBlocked h (hway.1.symm.trans hroot) hup
  rcases List.prefix_or_prefix_of_prefix hparts hbarrier with ⟨rest, hrest⟩ | ⟨rest, hrest⟩
  · -- above the barrier
    rw [← hrest, FileTree.at?_append, hnone] at hat
    exact absurd hat (by simp)
  · -- at the barrier or below it
    cases rest with
    | nil =>
      rw [List.append_nil] at hrest
      exact absurd (hnone.symm.trans (hrest ▸ hat)) (by simp)
    | cons part rest =>
      rcases hkind with ⟨content, rfl⟩ | rfl
      · obtain ⟨entries, hentries⟩ :=
          exists_directory_of_locate hlocate (by rw [← hrest]; simp)
        rw [← hrest, List.dropLast_append_of_ne_nil (by simp), FileTree.at?_append, hat,
          Option.bind_some] at hentries
        exact absurd hentries (FileTree.at?_file_ne content _ entries)
      · have hlength := hway.2.length_le
        rw [← hrest, List.length_append, Path.parent, List.length_dropLast,
          List.length_cons] at hlength
        omega

end Workspace

end TableProperties
