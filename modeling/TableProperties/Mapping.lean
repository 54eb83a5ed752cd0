/-!
# Ordered mappings

A mapping from strings to values that remembers in which order its keys were first inserted.
Inserting a key that is already there replaces its value and keeps its position, so of repeated
keys the last value wins and the first position is kept.

## Main definitions

* `Mapping`: the entries, with the invariant that no key occurs twice.
* `Mapping.get?`, `Mapping.insert`, `Mapping.ofList`, `Mapping.merge`.
* `Mapping.Same`: equality of two mappings up to the order of their entries.
-/

namespace TableProperties

/-! ## Association lists -/

namespace Association

variable {κ : Type u} {α : Type v}

/-- Replaces the value of the first entry whose key is the `same` as `key`, or adds an entry at
the end. The key of an entry that is already there is kept. -/
def put (same : κ → κ → Bool) (key : κ) (value : α) : List (κ × α) → List (κ × α)
  | [] => [(key, value)]
  | entry :: rest =>
    if same entry.1 key then (entry.1, value) :: rest else entry :: put same key value rest

/-- Builds an association list from pairs, one `put` after the other. -/
def ofPairs (same : κ → κ → Bool) (pairs : List (κ × α)) : List (κ × α) :=
  pairs.foldl (fun entries p ↦ put same p.1 p.2 entries) []

end Association

/-! ## Mappings with string keys -/

/-- Entries in insertion order, no key twice. -/
structure Mapping (α : Type u) where
  /-- The entries, in insertion order. -/
  entries : List (String × α)
  /-- No key occurs twice. -/
  nodup_keys : (entries.map Prod.fst).Nodup

namespace Mapping

variable {α : Type u} {β : Type v}

@[ext] theorem ext {m n : Mapping α} (h : m.entries = n.entries) : m = n := by
  cases m; cases n; cases h; rfl

instance [DecidableEq α] : DecidableEq (Mapping α) := fun m n ↦
  decidable_of_iff (m.entries = n.entries) ⟨ext, fun h ↦ h ▸ rfl⟩

instance [Repr α] : Repr (Mapping α) where
  reprPrec m := reprPrec m.entries

/-- The mapping without entries. -/
def empty : Mapping α := ⟨[], List.nodup_nil⟩

instance : EmptyCollection (Mapping α) := ⟨empty⟩

instance : Inhabited (Mapping α) := ⟨empty⟩

/-- The keys, in insertion order. -/
def keys (m : Mapping α) : List String :=
  m.entries.map Prod.fst

/-- The number of entries. -/
def size (m : Mapping α) : Nat :=
  m.entries.length

/-- The value of a key. -/
def get? (m : Mapping α) (key : String) : Option α :=
  m.entries.lookup key

/-- Whether a key has a value. -/
def contains (m : Mapping α) (key : String) : Bool :=
  (m.get? key).isSome

/-! ## Insertion -/

/-- `Association.put` for string keys. -/
def putEntry (key : String) (value : α) (entries : List (String × α)) : List (String × α) :=
  Association.put (· == ·) key value entries

theorem putEntry_nil (key : String) (value : α) : putEntry key value [] = [(key, value)] := rfl

theorem putEntry_cons (key : String) (value : α) (entry : String × α)
    (rest : List (String × α)) :
    putEntry key value (entry :: rest) =
      if entry.1 = key then (key, value) :: rest else entry :: putEntry key value rest := by
  simp only [putEntry, Association.put, beq_iff_eq]
  split <;> simp_all

/-- The keys after an insertion: unchanged if the key was there, else one more at the end. -/
theorem keys_putEntry (key : String) (value : α) (entries : List (String × α)) :
    (putEntry key value entries).map Prod.fst =
      if key ∈ entries.map Prod.fst then entries.map Prod.fst
      else entries.map Prod.fst ++ [key] := by
  induction entries with
  | nil => simp [putEntry_nil]
  | cons entry rest ih =>
    rw [putEntry_cons]
    by_cases h : entry.1 = key
    · simp [h]
    · have h' : ¬ key = entry.1 := fun e ↦ h e.symm
      simp only [h, if_false, List.map_cons, ih, List.mem_cons, h', false_or]
      split <;> simp

theorem nodup_keys_putEntry (key : String) (value : α) {entries : List (String × α)}
    (h : (entries.map Prod.fst).Nodup) :
    ((putEntry key value entries).map Prod.fst).Nodup := by
  rw [keys_putEntry]
  split
  · exact h
  · next hk =>
    rw [List.nodup_append]
    refine ⟨h, by simp, ?_⟩
    intro a ha b hb e
    rw [List.mem_singleton] at hb
    exact hk (hb ▸ e ▸ ha)

/-- Sets the value of a key; a new key goes to the end. -/
def insert (m : Mapping α) (key : String) (value : α) : Mapping α :=
  ⟨putEntry key value m.entries, nodup_keys_putEntry key value m.nodup_keys⟩

/-- Inserts pairs one after the other. -/
def insertMany (m : Mapping α) (pairs : List (String × α)) : Mapping α :=
  pairs.foldl (fun m p ↦ m.insert p.1 p.2) m

/-- The mapping of a list of pairs: the last value of a key wins, at its first position. -/
def ofList (pairs : List (String × α)) : Mapping α :=
  empty.insertMany pairs

/-- The entries of `m` overlaid with those of `n`. -/
def merge (m n : Mapping α) : Mapping α :=
  m.insertMany n.entries

/-- The values after an insertion: only that of the key is another one. -/
theorem lookup_putEntry (key other : String) (value : α) (entries : List (String × α)) :
    (putEntry key value entries).lookup other =
      if other = key then some value else entries.lookup other := by
  induction entries with
  | nil =>
    by_cases h : other = key
    · simp [putEntry_nil, h]
    · have h' : (other == key) = false := beq_eq_false_iff_ne.2 h
      rw [putEntry_nil, List.lookup_cons, h', if_neg h]
  | cons entry rest ih =>
    rw [putEntry_cons]
    by_cases hentry : entry.1 = key
    · rw [if_pos hentry, List.lookup_cons, List.lookup_cons, hentry]
      by_cases h : other = key
      · simp [h]
      · have h' : (other == key) = false := beq_eq_false_iff_ne.2 h
        rw [h', if_neg h]
    · rw [if_neg hentry, List.lookup_cons, List.lookup_cons, ih]
      by_cases h : other = entry.1
      · simp [h, hentry]
      · have h' : (other == entry.1) = false := beq_eq_false_iff_ne.2 h
        rw [h']

@[simp] theorem entries_empty : (empty : Mapping α).entries = [] := rfl

@[simp] theorem entries_insert (m : Mapping α) (key : String) (value : α) :
    (m.insert key value).entries = putEntry key value m.entries := rfl

@[simp] theorem get?_empty (key : String) : (empty : Mapping α).get? key = none := rfl

@[simp] theorem keys_empty : (empty : Mapping α).keys = [] := rfl

theorem get?_insert (m : Mapping α) (key other : String) (value : α) :
    (m.insert key value).get? other = if other = key then some value else m.get? other :=
  lookup_putEntry key other value m.entries

theorem keys_insert (m : Mapping α) (key : String) (value : α) :
    (m.insert key value).keys = if key ∈ m.keys then m.keys else m.keys ++ [key] :=
  keys_putEntry key value m.entries

@[simp] theorem insertMany_nil (m : Mapping α) : m.insertMany [] = m := rfl

@[simp] theorem insertMany_cons (m : Mapping α) (p : String × α) (ps : List (String × α)) :
    m.insertMany (p :: ps) = (m.insert p.1 p.2).insertMany ps := rfl

theorem insertMany_append (m : Mapping α) (ps qs : List (String × α)) :
    m.insertMany (ps ++ qs) = (m.insertMany ps).insertMany qs := by
  simp [insertMany]

/-! ## Values -/

/-- Applies a function to every value. -/
def mapValues (f : α → β) (m : Mapping α) : Mapping β where
  entries := m.entries.map fun p ↦ (p.1, f p.2)
  nodup_keys := by simpa [Function.comp_def] using m.nodup_keys

/-! ## Equality up to order -/

/-- Whether two mappings have the same entries, in whatever order. -/
def Same [BEq α] (m n : Mapping α) : Bool :=
  m.size == n.size && m.entries.all fun p ↦ n.get? p.1 == some p.2

end Mapping

end TableProperties
