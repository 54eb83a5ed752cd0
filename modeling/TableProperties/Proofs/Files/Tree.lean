import TableProperties.Files.Tree
import TableProperties.Mapping

/-!
# What was written is read

A file that was written at a path is what the same path leads to afterwards. Writing puts a file at
a place where there was none, or in the stead of another file. No other place changes, so that every
directory stays a directory and keeps its entries; hence a path that could be followed before can be
followed afterwards, to the same place.

## Main statements

* `FileTree.at?_put_self`, `FileTree.entry_at?_put_of_ne`: what stands where something was put, and
  everywhere else.
* `Workspace.putsAt_write`: a write changes one place.
* `Workspace.read_write`: what was written is read.
-/

namespace TableProperties

/-! ## Trees -/

/-- A file with its content, or a directory without what it contains. -/
inductive Entry where
  | file (content : ByteArray)
  | directory

namespace FileTree

variable {above tree : FileTree} {names : List String} {entries : List (String × FileTree)}

theorem putEntry_eq (name : String) (tree : FileTree) (entries : List (String × FileTree)) :
    putEntry name tree entries = Mapping.putEntry name tree entries := by
  induction entries with
  | nil => rfl
  | cons e rest ih => rw [putEntry, Mapping.putEntry_cons, ih]

theorem lookup_putEntry (name other : String) (tree : FileTree)
    (entries : List (String × FileTree)) :
    (putEntry name tree entries).lookup other
      = if other = name then some tree else entries.lookup other := by
  rw [putEntry_eq, Mapping.lookup_putEntry]

theorem at?_cons (name : String) (rest : List String) :
    (directory entries).at? (name :: rest) = (entries.lookup name).bind (·.at? rest) := rfl

theorem at?_cons_eq_some {name : String} {rest : List String}
    (h : above.at? (name :: rest) = some tree) :
    ∃ entries child, above = directory entries ∧ entries.lookup name = some child ∧
      child.at? rest = some tree := by
  cases above with
  | file content => exact absurd h (by simp [at?, named?])
  | directory entries =>
    rw [at?_cons, Option.bind_eq_some_iff] at h
    obtain ⟨child, hchild, hrest⟩ := h
    exact ⟨entries, child, rfl, hchild, hrest⟩

/-- What contains something is a directory. -/
theorem at?_dropLast_of_at?_eq_some (h : above.at? names = some tree) (hne : names ≠ []) :
    ∃ entries, above.at? names.dropLast = some (directory entries) := by
  induction names generalizing above with
  | nil => exact absurd rfl hne
  | cons name rest ih =>
    obtain ⟨entries, child, rfl, hchild, hrest⟩ := at?_cons_eq_some h
    cases rest with
    | nil => exact ⟨entries, rfl⟩
    | cons next rest =>
      obtain ⟨inner, hinner⟩ := ih hrest (by simp)
      refine ⟨inner, ?_⟩
      rw [List.dropLast_cons_of_ne_nil (by simp), at?_cons, hchild]
      exact hinner

/-- What stands where something was put into a directory. -/
theorem at?_put_self (h : ∃ entries, above.at? names.dropLast = some (directory entries))
    (hne : names ≠ []) : (above.put names tree).at? names = some tree := by
  induction names generalizing above with
  | nil => exact absurd rfl hne
  | cons name rest ih =>
    obtain ⟨inner, hinner⟩ := h
    cases rest with
    | nil =>
      obtain rfl : above = directory inner := Option.some.inj hinner
      rw [put, at?_cons, lookup_putEntry, if_pos rfl]
      rfl
    | cons next rest =>
      rw [List.dropLast_cons_of_ne_nil (by simp)] at hinner
      obtain ⟨entries, child, rfl, hchild, hrest⟩ := at?_cons_eq_some hinner
      rw [put, at?_cons, lookup_putEntry, if_pos rfl, hchild, Option.getD_some, Option.bind_some]
      exact ih ⟨inner, hrest⟩ (by simp)

theorem at?_append (names rest : List String) :
    above.at? (names ++ rest) = (above.at? names).bind (·.at? rest) := by
  induction names generalizing above with
  | nil => rfl
  | cons name names ih =>
    rw [List.cons_append, at?, at?, Option.bind_assoc]
    exact Option.bind_congr fun child _ ↦ ih

theorem at?_eq_none_of_leaf (hleaf : ∀ name, tree.named? name = none) (hne : names ≠ []) :
    tree.at? names = none := by
  obtain ⟨name, rest, rfl⟩ := List.exists_cons_of_ne_nil hne
  rw [at?, hleaf, Option.bind_none]

/-- There are no directories below a file. -/
theorem at?_file_ne (content : ByteArray) (names : List String)
    (entries : List (String × FileTree)) : (file content).at? names ≠ some (directory entries) := by
  cases names <;> simp [at?, named?]

/-- What stands at a place, without what lies below it. -/
def entry : FileTree → Entry
  | file content => .file content
  | directory _ => .directory

/-- A leaf that is put into a directory, where no directory was, changes no other place. -/
theorem entry_at?_put_of_ne {place : List String} (hleaf : ∀ name, tree.named? name = none)
    (hparent : names ≠ [] → ∃ entries, above.at? names.dropLast = some (directory entries))
    (hfree : ∀ entries, above.at? names ≠ some (directory entries)) (hne : place ≠ names) :
    ((above.put names tree).at? place).map entry = (above.at? place).map entry := by
  induction names generalizing above place with
  | nil =>
    cases above with
    | directory entries => exact absurd rfl (hfree entries)
    | file content =>
      rw [put, at?_eq_none_of_leaf hleaf hne, at?_eq_none_of_leaf (fun _ ↦ rfl) hne]
  | cons name rest ih =>
    cases above with
    | file content => rfl
    | directory children =>
      cases place with
      | nil => rfl
      | cons other place =>
        rw [put, at?_cons, at?_cons, lookup_putEntry]
        split
        · next heq =>
          -- the place lies on the way, or beside it further down
          subst heq
          have hne' : place ≠ rest := fun h ↦ hne (congrArg _ h)
          have hbelow : rest ≠ [] → ∃ child, children.lookup other = some child ∧
              ∃ entries, child.at? rest.dropLast = some (directory entries) := by
            intro hrest
            obtain ⟨entries, hentries⟩ := hparent (by simp)
            rw [List.dropLast_cons_of_ne_nil hrest] at hentries
            obtain ⟨_, child, heq, hchild, hinner⟩ := at?_cons_eq_some hentries
            obtain rfl := directory.inj heq
            exact ⟨child, hchild, entries, hinner⟩
          cases hchild : children.lookup other with
          | some child =>
            rw [Option.getD_some, Option.bind_some, Option.bind_some]
            refine ih (fun hrest ↦ ?_) (fun entries hentries ↦ hfree entries ?_) hne'
            · obtain ⟨_, hchild', hinner⟩ := hbelow hrest
              obtain rfl := Option.some.inj (hchild.symm.trans hchild')
              exact hinner
            · rw [at?_cons, hchild]
              exact hentries
          | none =>
            -- only the last name can be one that is not there
            by_cases hrest : rest = []
            · rw [hrest] at hne' ⊢
              rw [put, Option.bind_some, Option.bind_none, at?_eq_none_of_leaf hleaf hne']
            · obtain ⟨_, hchild', -⟩ := hbelow hrest
              exact absurd (hchild.symm.trans hchild') (by simp)
        · rfl

end FileTree

/-! ## Places -/

namespace Workspace

open FileTree (directory file)

variable {w w' : Workspace} {p : Path} {place place' : Location} {names : List String}
  {content : ByteArray}

/-- Every directory of one tree is a directory of another one, with all its names. -/
def KeepsDirectories (w w' : Workspace) : Prop :=
  ∀ names entries, w.root.at? names = some (directory entries) →
    ∃ entries', w'.root.at? names = some (directory entries') ∧
      ∀ name, (entries.lookup name).isSome = true → (entries'.lookup name).isSome = true

theorem step_of_keepsDirectories (hkeeps : w.KeepsDirectories w') {part : String} {isLast : Bool}
    (h : w.step place part isLast = .ok place') : w'.step place part isLast = .ok place' := by
  cases place with
  | outside => exact h
  | inside names =>
    rw [step] at h
    split at h
    · exact absurd h (by simp)
    · exact absurd h (by simp)
    · next entries hat =>
      obtain ⟨entries', hat', hnames⟩ := hkeeps names entries hat
      rw [step, hat']
      simp only
      split at h
      · next hup => rw [if_pos hup, h]
      · next hup =>
        rw [if_neg hup]
        split at h
        · exact absurd h (by simp)
        · next hlength =>
          rw [if_neg hlength]
          split at h
          · next hfound =>
            have hfound' : ((entries'.lookup part).isSome || isLast) = true := by
              rcases (Bool.or_eq_true _ _).mp hfound with hsome | hlast
              · rw [hnames part hsome, Bool.true_or]
              · rw [hlast, Bool.or_true]
            rw [if_pos hfound', h]
          · exact absurd h (by simp)

theorem walk_of_keepsDirectories (hkeeps : w.KeepsDirectories w') {parts : List String}
    (h : w.walk place parts = .ok place') : w'.walk place parts = .ok place' := by
  induction parts generalizing place with
  | nil => exact h
  | cons part rest ih =>
    rw [walk] at h ⊢
    split at h
    · exact absurd h (by simp)
    · next hstep =>
      rw [step_of_keepsDirectories hkeeps hstep]
      exact ih h

theorem locate_of_keepsDirectories (hkeeps : w.KeepsDirectories w')
    (h : w.locate p = .ok place) : w'.locate p = .ok place := by
  rw [locate] at h ⊢
  split at h
  · exact absurd h (by simp)
  · next hnull =>
    rw [if_neg hnull]
    split at h
    · exact absurd h (by simp)
    · next hlength =>
      rw [if_neg hlength]
      exact walk_of_keepsDirectories hkeeps h

/-- A step leads into a directory. -/
theorem exists_directory_of_step {part : String} {isLast : Bool}
    (h : w.step place part isLast = .ok (.inside names)) :
    ∃ entries, w.root.at? names.dropLast = some (directory entries) := by
  cases place with
  | outside =>
    rw [step] at h
    split at h
    · exact absurd h (by simp)
    · split at h <;> exact absurd h (by simp)
  | inside start =>
    rw [step] at h
    split at h
    · exact absurd h (by simp)
    · exact absurd h (by simp)
    · next entries hat =>
      split at h
      · by_cases hstart : start = []
        · exact absurd h (by simp [hstart])
        · -- one step up from a directory
          rw [if_neg (by simpa using hstart), Except.ok.injEq, Location.inside.injEq] at h
          obtain ⟨inner, hinner⟩ := FileTree.at?_dropLast_of_at?_eq_some hat hstart
          subst h
          by_cases hroot : start.dropLast = []
          · exact ⟨inner, by rw [hroot] at hinner ⊢; exact hinner⟩
          · exact FileTree.at?_dropLast_of_at?_eq_some hinner hroot
      · split at h
        · exact absurd h (by simp)
        · split at h
          · rw [Except.ok.injEq, Location.inside.injEq] at h
            exact ⟨entries, by rw [← h, List.dropLast_concat]; exact hat⟩
          · exact absurd h (by simp)

/-- The place to which a path leads is the working directory itself or lies in a directory. -/
theorem exists_directory_of_walk {parts : List String}
    (h : w.walk place parts = .ok (.inside names)) (hparts : parts ≠ []) :
    ∃ entries, w.root.at? names.dropLast = some (directory entries) := by
  induction parts generalizing place with
  | nil => exact absurd rfl hparts
  | cons part rest ih =>
    rw [walk] at h
    split at h
    · exact absurd h (by simp)
    · next hstep =>
      cases rest with
      | nil =>
        obtain rfl := Except.ok.inj h
        exact exists_directory_of_step hstep
      | cons next rest => exact ih h (by simp)

/-- A path that leads somewhere is followed from the working directory or from outside of it. -/
theorem walk_of_locate (h : w.locate p = .ok place) :
    w.walk (if p.root = "" then .inside [] else .outside) p.parts = .ok place := by
  rw [locate] at h
  split at h
  · exact absurd h (by simp)
  · split at h
    · exact absurd h (by simp)
    · exact h

theorem exists_directory_of_locate (h : w.locate p = .ok (.inside names)) (hne : names ≠ []) :
    ∃ entries, w.root.at? names.dropLast = some (directory entries) := by
  have hwalk := walk_of_locate h
  by_cases hparts : p.parts = []
  · -- an empty path leads to the working directory
    rw [hparts, walk] at hwalk
    split at hwalk
    · exact absurd (Location.inside.inj (Except.ok.inj hwalk)).symm hne
    · exact absurd hwalk (by simp)
  · exact exists_directory_of_walk hwalk hparts

/-! ## Changes -/

/-- What stands at a place below the working directory. -/
def entryAt? (w : Workspace) (names : List String) : Option Entry :=
  (w.root.at? names).map FileTree.entry

theorem entryAt?_eq_directory_iff :
    w.entryAt? names = some .directory ↔
      ∃ entries, w.root.at? names = some (directory entries) := by
  rw [entryAt?]
  cases w.root.at? names with
  | none => simp
  | some tree => cases tree <;> simp [FileTree.entry]

theorem entryAt?_eq_file_iff :
    w.entryAt? names = some (.file content) ↔ w.root.at? names = some (file content) := by
  rw [entryAt?]
  cases w.root.at? names with
  | none => simp
  | some tree => cases tree <;> simp [FileTree.entry]

theorem isSome_entryAt?_concat (h : w.root.at? names = some (directory entries)) (name : String) :
    (w.entryAt? (names ++ [name])).isSome = (entries.lookup name).isSome := by
  rw [entryAt?, Option.isSome_map, FileTree.at?_append, h, Option.bind_some, FileTree.at?_cons]
  cases entries.lookup name <;> rfl

/-- Two workspaces that differ in one place, where a file or an empty directory was put in the stead
of a file or of nothing. -/
structure PutsAt (w w' : Workspace) (names : List String) (new : Entry) : Prop where
  /-- What was put is there. -/
  entryAt?_eq : w'.entryAt? names = some new
  /-- No directory was replaced. -/
  ne_directory : w.entryAt? names ≠ some .directory
  /-- Every other place is as it was. -/
  entryAt?_eq_of_ne : ∀ place, place ≠ names → w'.entryAt? place = w.entryAt? place

theorem putsAt_put {tree : FileTree} (hlocate : w.locate p = .ok (.inside names))
    (hleaf : ∀ name, tree.named? name = none)
    (hfree : ∀ entries, w.root.at? names ≠ some (directory entries)) :
    w.PutsAt ⟨w.root.put names tree⟩ names tree.entry where
  entryAt?_eq := by
    refine congrArg (Option.map FileTree.entry) (?_ : _ = some tree)
    by_cases hnames : names = []
    · rw [hnames]
      rfl
    · exact FileTree.at?_put_self (exists_directory_of_locate hlocate hnames) hnames
  ne_directory := by
    rw [ne_eq, entryAt?_eq_directory_iff, not_exists]
    exact hfree
  entryAt?_eq_of_ne _ :=
    FileTree.entry_at?_put_of_ne hleaf (exists_directory_of_locate hlocate) hfree

theorem PutsAt.keepsDirectories {new : Entry} (h : w.PutsAt w' names new) :
    w.KeepsDirectories w' := by
  intro place entries hat
  have hdirectory : w.entryAt? place = some .directory :=
    entryAt?_eq_directory_iff.mpr ⟨entries, hat⟩
  have hplace : place ≠ names := fun heq ↦ h.ne_directory (heq ▸ hdirectory)
  obtain ⟨entries', hat'⟩ :=
    entryAt?_eq_directory_iff.mp ((h.entryAt?_eq_of_ne place hplace).trans hdirectory)
  refine ⟨entries', hat', fun name hname ↦ ?_⟩
  -- an entry of a directory is something at a place of its own
  rw [← isSome_entryAt?_concat hat']
  by_cases heq : place ++ [name] = names
  · rw [heq, h.entryAt?_eq, Option.isSome_some]
  · rw [h.entryAt?_eq_of_ne _ heq, isSome_entryAt?_concat hat, hname]

/-! ## Writing -/

/-- A path at which a file can be written: it leads to a place below the working directory where no
directory is. -/
def CanWrite (w : Workspace) (p : Path) : Prop :=
  ∃ names, w.locate p = .ok (.inside names) ∧
    ∀ entries, w.root.at? names ≠ some (directory entries)

theorem exists_write_iff :
    (∃ w', w.write p content = .ok w') ↔ w.CanWrite p := by
  rw [write, CanWrite]
  cases w.locate p with
  | error fault => simp
  | ok place =>
    cases place with
    | outside => simp
    | inside names =>
      simp only
      split
      · next entries hat => simp [hat]
      · next hfree => simpa using fun entries ↦ hfree entries

theorem write_eq_ok (hwrite : w.write p content = .ok w') :
    ∃ names, w.locate p = .ok (.inside names) ∧
      (∀ entries, w.root.at? names ≠ some (directory entries)) ∧
      w' = ⟨w.root.put names (file content)⟩ := by
  obtain ⟨names, hlocate, hfree⟩ := exists_write_iff.mp ⟨w', hwrite⟩
  refine ⟨names, hlocate, hfree, ?_⟩
  rw [write, hlocate] at hwrite
  cases hat : w.root.at? names with
  | none =>
    simp only [hat] at hwrite
    exact (Except.ok.inj hwrite).symm
  | some tree =>
    cases tree with
    | directory entries => exact absurd hat (hfree entries)
    | file old =>
      simp only [hat] at hwrite
      exact (Except.ok.inj hwrite).symm

/-- A write changes one place, to which the path leads. -/
theorem putsAt_write (hwrite : w.write p content = .ok w') :
    ∃ names, w.locate p = .ok (.inside names) ∧ w.PutsAt w' names (.file content) := by
  obtain ⟨names, hlocate, hfree, rfl⟩ := write_eq_ok hwrite
  exact ⟨names, hlocate, putsAt_put hlocate (fun _ ↦ rfl) hfree⟩

/-- After a write every path leads where it led before. -/
theorem locate_write (hwrite : w.write p content = .ok w') {other : Path}
    (h : w.locate other = .ok place) : w'.locate other = .ok place := by
  obtain ⟨_, -, hput⟩ := putsAt_write hwrite
  exact locate_of_keepsDirectories hput.keepsDirectories h

/-- **What was written is read.** -/
theorem read_write (hwrite : w.write p content = .ok w') : w'.read p = .ok content := by
  obtain ⟨names, hlocate, hput⟩ := putsAt_write hwrite
  have hat := entryAt?_eq_file_iff.mp hput.entryAt?_eq
  rw [read, find?, locate_write hwrite hlocate]
  simp only [hat]

theorem has_write (hwrite : w.write p content = .ok w') : w'.has p = .ok true := by
  obtain ⟨names, hlocate, -⟩ := write_eq_ok hwrite
  have hread := read_write hwrite
  rw [has, locate_write hwrite hlocate]
  rw [read] at hread
  cases hfind : w'.find? p with
  | none => exact absurd hread (by simp [hfind])
  | some tree => rfl

end Workspace

end TableProperties
