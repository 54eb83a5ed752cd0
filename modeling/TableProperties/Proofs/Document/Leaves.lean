import Mathlib
import TableProperties.Proofs.Document.Shown
import TableProperties.Proofs.Except.Traversal
import TableProperties.Proofs.Mapping.Overlay

/-!
# The leaves of a nested mapping

A nested mapping has a list of leaves, from left to right, each at the end of a path of keys.
Flattening makes a mapping of every inner mapping and lays it over what was found before. The result
is the same as if there had been no inner mappings: every leaf is turned into its text, the keys on
its path are joined by dots, and the pairs are inserted one after the other in the order of the
leaves. The first leaf without a text ends it all, even where a later leaf with the same joined key
would have taken its place.

## Main statements

* `Document.leaves`, `joinedKey`: the leaves and their keys.
* `flattenAt_eq`, `flattenEntries_eq`: flattening by leaves, at any place of a mapping.
* `flatten_eq_leaves`: the properties of a nested mapping.
-/

namespace TableProperties

/-! ## Leaves -/

namespace Document

mutual

/-- The leaves of a document from left to right, each with the keys on the way to it. Whatever is
no mapping is a leaf; a mapping without entries has none. -/
def leaves : Document → List (List Scalar × Document)
  | map entries => leavesOfEntries entries
  | leaf => [([], leaf)]

/-- The leaves of the entries of a mapping. -/
def leavesOfEntries : List (Scalar × Document) → List (List Scalar × Document)
  | [] => []
  | (key, d) :: rest => d.leaves.map (fun leaf ↦ (key :: leaf.1, leaf.2)) ++ leavesOfEntries rest

end

mutual

/-- Whether a document is a finite nested mapping, or a leaf, whose keys all have a text. -/
def IsNested : Document → Prop
  | map entries => EntriesAreNested entries
  | loop isMap => isMap = false
  | _ => True

/-- Whether the entries of a mapping are of this kind. -/
def EntriesAreNested : List (Scalar × Document) → Prop
  | [] => True
  | (key, d) :: rest => key.text? ≠ none ∧ d.IsNested ∧ EntriesAreNested rest

end

mutual

theorem ne_loop_of_mem_leaves (d : Document) (h : d.IsNested) :
    ∀ leaf ∈ d.leaves, leaf.2 ≠ .loop true := by
  cases d with
  | map entries =>
    rw [leaves]
    exact ne_loop_of_mem_leavesOfEntries entries (by rwa [IsNested] at h)
  | loop isMap =>
    rw [IsNested] at h
    simp [leaves, h]
  | scalar | list | pairs | set => simp [leaves]

theorem ne_loop_of_mem_leavesOfEntries (entries : List (Scalar × Document))
    (h : EntriesAreNested entries) : ∀ leaf ∈ leavesOfEntries entries, leaf.2 ≠ .loop true := by
  cases entries with
  | nil => simp [leavesOfEntries]
  | cons e rest =>
    obtain ⟨key, d⟩ := e
    rw [EntriesAreNested] at h
    intro leaf hleaf
    rw [leavesOfEntries, List.mem_append, List.mem_map] at hleaf
    rcases hleaf with ⟨inner, hinner, rfl⟩ | hleaf
    · exact ne_loop_of_mem_leaves d h.2.1 inner hinner
    · exact ne_loop_of_mem_leavesOfEntries rest h.2.2 leaf hleaf

end

end Document

/-- The path of a leaf in a mapping has a key. -/
theorem Document.ne_nil_of_mem_leavesOfEntries {entries : List (Scalar × Document)}
    {leaf : List Scalar × Document} (h : leaf ∈ leavesOfEntries entries) : leaf.1 ≠ [] := by
  induction entries with
  | nil => exact absurd h (by simp [leavesOfEntries])
  | cons e rest ih =>
    rw [leavesOfEntries, List.mem_append, List.mem_map] at h
    rcases h with ⟨inner, -, rfl⟩ | h
    · exact List.cons_ne_nil _ _
    · exact ih h

/-! ## Joined keys -/

/-- The text of a key; the keys of a nested mapping have one. -/
def Scalar.keyText (key : Scalar) : String :=
  String.ofList (key.text?.getD [])

/-- The keys of a path, joined by dots. -/
def joinedKey (path : List Scalar) : String :=
  ".".intercalate (path.map Scalar.keyText)

/-- The key of a leaf at the end of a path from a place that has a joined key already. -/
def extendedKey (key : String) (path : List Scalar) : String :=
  if path = [] then key else key ++ "." ++ joinedKey path

theorem writable_text?_of_ne_none {key : Scalar} (h : key.text? ≠ none) :
    writable key.text? = .ok key.keyText := by
  obtain ⟨s, hs⟩ := Option.ne_none_iff_exists'.mp h
  rw [Scalar.keyText, hs]
  rfl

/-- The first key of a path can be joined to what stands in front of it. -/
theorem append_joinedKey_cons (start : String) (key : Scalar) (path : List Scalar) :
    start ++ joinedKey (key :: path) = extendedKey (start ++ key.keyText) path := by
  by_cases hpath : path = []
  · rw [extendedKey, if_pos hpath, hpath, joinedKey, List.map_singleton,
      String.intercalate_singleton]
  · have hmap : path.map Scalar.keyText ≠ [] := mt List.map_eq_nil_iff.mp hpath
    rw [extendedKey, if_neg hpath, joinedKey, List.map_cons,
      String.intercalate_cons_of_ne_nil hmap, joinedKey]
    simp only [String.append_assoc]

/-! ## Flattening by leaves -/

/-- The pairs of some leaves: the key that `keyOf` gives to the path of a leaf, and its text. -/
def pairsOfLeaves (keyOf : List Scalar → String) (leaves : List (List Scalar × Document)) :
    Except FlattenFault (List (String × String)) :=
  leaves.mapM fun leaf ↦ leaf.2.property.map fun value ↦ (keyOf leaf.1, value)

theorem pairsOfLeaves_append (keyOf : List Scalar → String)
    (leaves leaves' : List (List Scalar × Document)) :
    pairsOfLeaves keyOf (leaves ++ leaves')
      = (pairsOfLeaves keyOf leaves).bind fun pairs ↦
          (pairsOfLeaves keyOf leaves').map (pairs ++ ·) :=
  Except.mapM_append_eq _ leaves leaves'

theorem pairsOfLeaves_congr {keyOf keyOf' : List Scalar → String}
    {leaves : List (List Scalar × Document)} (h : ∀ leaf ∈ leaves, keyOf leaf.1 = keyOf' leaf.1) :
    pairsOfLeaves keyOf leaves = pairsOfLeaves keyOf' leaves := by
  induction leaves with
  | nil => rfl
  | cons leaf rest ih =>
    have hrest := ih fun other hother ↦ h other (List.mem_cons_of_mem leaf hother)
    rw [pairsOfLeaves] at hrest ⊢
    rw [Except.mapM_cons_eq, hrest, h leaf List.mem_cons_self, pairsOfLeaves, pairsOfLeaves,
      Except.mapM_cons_eq]

/-- The leaves of an inner mapping have keys that start with the key of the mapping. -/
theorem pairsOfLeaves_map_cons (start : String) (key : Scalar)
    (leaves : List (List Scalar × Document)) :
    pairsOfLeaves (fun path ↦ start ++ joinedKey path)
        (leaves.map fun leaf ↦ (key :: leaf.1, leaf.2))
      = pairsOfLeaves (extendedKey (start ++ key.keyText)) leaves := by
  rw [pairsOfLeaves, List.mapM_map, pairsOfLeaves]
  simp only [append_joinedKey_cons, Function.comp_def]

theorem map_ofList_pairsOfLeaves_leaf (key : String) (leaf : Document) :
    (pairsOfLeaves (extendedKey key) [([], leaf)]).map Mapping.ofList
      = leaf.property.map fun value ↦ Mapping.empty.insert key value := by
  rw [pairsOfLeaves, Except.mapM_cons_eq]
  cases leaf.property with
  | error fault => rfl
  | ok value => rfl

mutual

/-- Flattening what stands under a joined key, by its leaves. -/
theorem flattenAt_eq (key : String) (d : Document) (h : d.IsNested) :
    flattenAt key d = (pairsOfLeaves (extendedKey key) d.leaves).map Mapping.ofList := by
  cases d with
  | map entries =>
    -- no path below a mapping is empty, so a dot follows the key of the mapping
    have hkeys : pairsOfLeaves (extendedKey key) (Document.leavesOfEntries entries)
        = pairsOfLeaves (fun path ↦ key ++ "." ++ joinedKey path)
            (Document.leavesOfEntries entries) :=
      pairsOfLeaves_congr fun leaf hleaf ↦ if_neg (Document.ne_nil_of_mem_leavesOfEntries hleaf)
    rw [Document.IsNested] at h
    rw [flattenAt, flattenEntries_eq _ _ entries h, Document.leaves, hkeys]
    rfl
  | scalar | list | pairs | set | loop =>
    simp only [flattenAt, Document.leaves, map_ofList_pairsOfLeaves_leaf]

/-- Flattening some entries, by their leaves. -/
theorem flattenEntries_eq (start : String) (found : Mapping String)
    (entries : List (Scalar × Document)) (h : Document.EntriesAreNested entries) :
    flattenEntries start found entries
      = (pairsOfLeaves (fun path ↦ start ++ joinedKey path) (Document.leavesOfEntries entries)).map
          found.insertMany := by
  cases entries with
  | nil => rfl
  | cons e rest =>
    obtain ⟨key, d⟩ := e
    rw [Document.EntriesAreNested] at h
    obtain ⟨hkey, hd, hrest⟩ := h
    rw [flattenEntries, writable_text?_of_ne_none hkey]
    simp only [flattenAt_eq _ d hd]
    rw [Document.leavesOfEntries, pairsOfLeaves_append, pairsOfLeaves_map_cons]
    cases pairsOfLeaves (extendedKey (start ++ key.keyText)) d.leaves with
    | error fault => rfl
    | ok pairs =>
      simp only [Except.map, Except.bind]
      -- to lay a mapping of pairs over others is to insert the pairs
      rw [flattenEntries_eq start _ rest hrest, Mapping.merge_ofList]
      cases pairsOfLeaves (fun path ↦ start ++ joinedKey path) (Document.leavesOfEntries rest) with
      | error fault => rfl
      | ok more => exact congrArg Except.ok (Mapping.insertMany_append found pairs more).symm

end

/-! ## Nested mappings -/

section Nested

open Document (EntriesAreNested IsNested leavesOfEntries)

variable {entries : List (Scalar × Document)} {m : Mapping String} {fault : FlattenFault}

theorem flatten_eq (h : EntriesAreNested entries) :
    flatten entries
      = (pairsOfLeaves joinedKey (leavesOfEntries entries)).map Mapping.ofList := by
  rw [flatten, flattenEntries_eq _ _ entries h]
  simp only [String.empty_append]
  rfl

theorem map_property_eq_error_iff (h : EntriesAreNested entries)
    {leaf : List Scalar × Document} (hleaf : leaf ∈ leavesOfEntries entries) :
    (leaf.2.property.map fun value ↦ (joinedKey leaf.1, value)) = .error fault ↔
      leaf.2.LacksProperty fault := by
  have hloop := Document.ne_loop_of_mem_leavesOfEntries entries h leaf hleaf
  rw [Except.map_eq_error_iff, Document.property_eq_error_iff hloop]

/-- A nested mapping fails if one of its leaves has no property. -/
theorem exists_flatten_eq_error_iff (h : EntriesAreNested entries) :
    (∃ fault, flatten entries = .error fault) ↔
      ∃ leaf ∈ leavesOfEntries entries, ∃ fault, leaf.2.LacksProperty fault := by
  simp only [flatten_eq h, Except.map_eq_error_iff, pairsOfLeaves,
    Except.exists_mapM_eq_error_iff]
  refine exists_congr fun leaf ↦ and_congr_right fun hleaf ↦ exists_congr fun fault ↦ ?_
  rw [← map_property_eq_error_iff h hleaf, Except.map_eq_error_iff]

/-- A nested mapping fails with its first leaf without a property. -/
theorem flatten_eq_error_iff (h : EntriesAreNested entries) :
    flatten entries = .error fault ↔
      ∃ front path leaf back, leavesOfEntries entries = front ++ (path, leaf) :: back ∧
        (∀ other ∈ front, ∀ fault', ¬ other.2.LacksProperty fault') ∧
        leaf.LacksProperty fault := by
  rw [flatten_eq h, Except.map_eq_error_iff, pairsOfLeaves, Except.mapM_eq_error_iff]
  constructor
  · rintro ⟨front, ⟨path, leaf⟩, back, heq, hfront, hleaf⟩
    refine ⟨front, path, leaf, back, heq, fun other hother fault' ↦ ?_, ?_⟩
    · rw [← map_property_eq_error_iff h (by simp [heq, hother])]
      exact hfront other hother fault'
    · have hmem : (path, leaf) ∈ leavesOfEntries entries := by simp [heq]
      exact (map_property_eq_error_iff h hmem).mp hleaf
  · rintro ⟨front, path, leaf, back, heq, hfront, hleaf⟩
    refine ⟨front, (path, leaf), back, heq, fun other hother fault' ↦ ?_, ?_⟩
    · rw [ne_eq, map_property_eq_error_iff h (by simp [heq, hother])]
      exact hfront other hother fault'
    · have hmem : (path, leaf) ∈ leavesOfEntries entries := by simp [heq]
      exact (map_property_eq_error_iff h hmem).mpr hleaf

/-- Whether a pair is what a leaf becomes: the joined keys of its path, and its text. -/
def LeafBecomes (leaf : List Scalar × Document) (pair : String × String) : Prop :=
  pair.1 = joinedKey leaf.1 ∧ leaf.2.property = .ok pair.2

/-- A nested mapping all of whose leaves have properties becomes the mapping of these. -/
theorem flatten_eq_ok_iff (h : EntriesAreNested entries) :
    flatten entries = .ok m ↔
      ∃ pairs, List.Forall₂ LeafBecomes (leavesOfEntries entries) pairs ∧ m = .ofList pairs := by
  have hpair (leaf : List Scalar × Document) (pair : String × String) :
      (leaf.2.property.map fun value ↦ (joinedKey leaf.1, value)) = .ok pair ↔
        LeafBecomes leaf pair := by
    rw [Except.map_eq_ok_iff, LeafBecomes]
    constructor
    · rintro ⟨value, hvalue, rfl⟩
      exact ⟨rfl, hvalue⟩
    · rintro ⟨hkey, hvalue⟩
      exact ⟨pair.2, hvalue, Prod.ext hkey.symm rfl⟩
  rw [flatten_eq h, Except.map_eq_ok_iff]
  refine exists_congr fun pairs ↦ and_congr ?_ eq_comm
  rw [pairsOfLeaves, Except.mapM_eq_ok_iff]
  simp only [hpair]

theorem keys_of_forall₂_leaves {leaves : List (List Scalar × Document)}
    {pairs : List (String × String)}
    (h : List.Forall₂ LeafBecomes leaves pairs) :
    pairs.map Prod.fst = leaves.map fun leaf ↦ joinedKey leaf.1 := by
  induction h with
  | nil => rfl
  | cons hpair _ ih => rw [List.map_cons, List.map_cons, hpair.1, ih]

/-- **The properties of a nested mapping** are those of its leaves, from left to right. Flattening
fails if and only if there is a leaf that is null or has no text, and then with the fault of the
first such leaf. Otherwise the joined keys stand in the order of their first occurrences, each with
the text of the last leaf that has it; where all joined keys differ, there are as many properties as
leaves. -/
theorem flatten_eq_leaves (h : EntriesAreNested entries) :
    ((∃ fault, flatten entries = .error fault) ↔
        ∃ leaf ∈ leavesOfEntries entries, ∃ fault, leaf.2.LacksProperty fault) ∧
      (∀ fault, flatten entries = .error fault ↔
        ∃ front path leaf back, leavesOfEntries entries = front ++ (path, leaf) :: back ∧
          (∀ other ∈ front, ∀ fault', ¬ other.2.LacksProperty fault') ∧
          leaf.LacksProperty fault) ∧
      (∀ m, flatten entries = .ok m ↔
        ∃ pairs, List.Forall₂ LeafBecomes (leavesOfEntries entries) pairs ∧
          m.keys = (pairs.map Prod.fst).eraseDups ∧
          ∀ key, m.get? key = lastValue? (· == key) pairs) ∧
      ∀ m, flatten entries = .ok m →
        ((leavesOfEntries entries).map fun leaf ↦ joinedKey leaf.1).Nodup →
        m.size = (leavesOfEntries entries).length := by
  refine ⟨exists_flatten_eq_error_iff h, fun fault ↦ flatten_eq_error_iff h, fun m ↦ ?_,
    fun m hm hnodup ↦ ?_⟩
  · rw [flatten_eq_ok_iff h]
    exact exists_congr fun pairs ↦ and_congr_right fun _ ↦ Mapping.eq_ofList_iff
  · obtain ⟨pairs, hpairs, rfl⟩ := (flatten_eq_ok_iff h).mp hm
    rw [← keys_of_forall₂_leaves hpairs] at hnodup
    rw [Mapping.size, Mapping.entries_ofList hnodup, hpairs.length_eq]

/-- The second leaf has the same joined key as the first, and the third comes after an inner mapping
without entries. -/
theorem flatten_of_equal_joined_keys :
    flatten [(.text "a.b", .scalar (.int 1)),
        (.text "a", .map [(.text "b", .scalar (.bool true)), (.int 7, .map [])]),
        (.null, .list [.scalar .null])]
      = .ok (.ofList [("a.b", "true"), ("None", "[None]")]) := by
  have hcollected : Mapping.ofList [("a.b", "true"), ("None", "[None]")]
      = .ofList [("a.b", "1"), ("a.b", "true"), ("None", "[None]")] := by
    decide +kernel
  refine ((flatten_eq_leaves ?nested).2.2.1 _).mpr
    ⟨[("a.b", "1"), ("a.b", "true"), ("None", "[None]")], ?becomes, ?_⟩
  case nested =>
    simp only [EntriesAreNested, IsNested, and_true, true_and]
    decide +kernel
  case becomes =>
    exact .cons ⟨by cbv, by cbv⟩ (.cons ⟨by cbv, by cbv⟩ (.cons ⟨by cbv, by cbv⟩ .nil))
  exact Mapping.eq_ofList_iff.mp hcollected

end Nested

end TableProperties
