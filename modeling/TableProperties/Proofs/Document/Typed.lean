import TableProperties.CommandLine.Run
import TableProperties.Proofs.Document.Leaves
import TableProperties.Proofs.History
import TableProperties.Proofs.Integer.Numeral

/-!
# Integers and truth values as leaves

Integers and truth values have types in a file, but they are stored as text and typed again when a
property is read. A leaf comes back as the value that it was if the property is of its type and
accepts it, and is refused with its text otherwise. Neither the way in which the key of the property
is cut into the keys of the path nor the other leaves make a difference, as long as the joined key
is that of one leaf alone.

There is one exception. A point in time whose distance from universal time is a day or more has no
text, so that a mapping with such a leaf has no properties at all.

## Main statements

* `ScalarKind.Contains`: the integers that belong to a type.
* `exists_read_of_leavesAt`: a property is read from the text of its leaf.
* `flatten_eq_error_iff_isFarTime`: which mappings have no properties.
* `read_of_typed_leaf`: which value that is.
-/

namespace TableProperties

open CommandLine (toConfiguration)
open Document (EntriesAreNested leavesOfEntries)
open Integer (decimalText)

/-! ## Types of scalars -/

/-- The types of properties whose values are integers or truth values. -/
inductive ScalarKind where
  /-- Integers of 32 bits. -/
  | int32
  /-- Integers of 64 bits. -/
  | int64
  /-- Integers of 64 bits that may be absent. -/
  | optionalInt64
  /-- Truth values. -/
  | bool
  deriving DecidableEq, Repr

namespace ScalarKind

/-- The reader of a type. -/
def reader : ScalarKind → Reader
  | int32 => .int32
  | int64 => .int64
  | optionalInt64 => .optionalInt64
  | bool => .bool

/-- Whether an integer belongs to a type. -/
def Contains : ScalarKind → Int → Prop
  | int32, n => -(2 ^ 31) ≤ n ∧ n ≤ 2 ^ 31 - 1
  | int64, n | optionalInt64, n => -(2 ^ 63) ≤ n ∧ n ≤ 2 ^ 63 - 1
  | bool, _ => False

end ScalarKind

/-- The text of a truth value. -/
def truthText (b : Bool) : String :=
  if b then "true" else "false"

/-! ## Reading the texts of integers and truth values -/

theorem mem_truthText (b : Bool) : 'e' ∈ (truthText b).toList := by
  cases b with
  | false => decide
  | true => decide

/-- The decimal form of an integer is no word in any case. -/
theorem lowercase_decimalText_ne_truthText (n : Int) (b : Bool) :
    Text.lowercase (decimalText n) ≠ truthText b := by
  have hplain : ∀ c ∈ (decimalText n).toList, c.toNat < 0x80 ∧ c.toLower ≠ 'e' := by
    intro c hc
    rw [decimalText, String.toList_ofList] at hc
    rcases Integer.mem_decimal hc with rfl | hdigit
    · decide
    · have hrange := Integer.toNat_of_isDigit hdigit
      have hupper : ¬ c.isUpper = true := by
        simp only [Char.isUpper, decide_eq_true_eq, UInt32.le_iff_toNat_le]
        change ¬ (65 ≤ c.toNat ∧ c.toNat ≤ 90)
        omega
      rw [Char.toLower_eq_of_not_isUpper hupper]
      refine ⟨by omega, ?_⟩
      rintro rfl
      exact absurd hdigit (by decide)
  intro h
  -- an e would have to come from one of these characters
  have hmem := h ▸ mem_truthText b
  rw [Text.lowercase_of_ascii fun c hc ↦ (hplain c hc).1, String.toList_ofList,
    List.mem_map] at hmem
  obtain ⟨c, hc, heq⟩ := hmem
  exact (hplain c hc).2 heq

theorem readBool_decimalText (n : Int) :
    readBool (decimalText n) = .error (.notBoolean (decimalText n)) := by
  have htrue : Text.lowercase (decimalText n) ≠ "true" :=
    lowercase_decimalText_ne_truthText n true
  have hfalse : Text.lowercase (decimalText n) ≠ "false" :=
    lowercase_decimalText_ne_truthText n false
  simp only [readBool, htrue, hfalse, if_false]

namespace ScalarKind

/-- A reader of integers between two bounds tells by these bounds which decimal forms are values. -/
theorem map_int_of_readsExactly {read : String → Except Rejection Int} {least greatest : Int}
    (h : Integer.ReadsExactly read least greatest) (n : Int) :
    (least ≤ n ∧ n ≤ greatest → (read (decimalText n)).map Value.int = .ok (.int n)) ∧
      (¬ (least ≤ n ∧ n ≤ greatest) →
        ∃ cause, (read (decimalText n)).map Value.int = .error cause) := by
  constructor
  · rintro ⟨hleast, hgreatest⟩
    rw [h.decimal_eq_ok n hleast hgreatest]
    rfl
  · intro hbounds
    obtain ⟨cause, hcause⟩ := h.decimal_eq_error n hbounds
    rw [hcause]
    exact ⟨cause, rfl⟩

/-- The decimal form of an integer is read as this integer by the types that contain it. -/
theorem reader_decimalText (kind : ScalarKind) (n : Int) :
    (kind.Contains n → kind.reader (some (decimalText n)) = .ok (.int n)) ∧
      (¬ kind.Contains n → ∃ cause, kind.reader (some (decimalText n)) = .error cause) := by
  have hint32 : Integer.ReadsExactly readInt32 (-(2 ^ 31)) (2 ^ 31 - 1) :=
    Integer.readsExactly_readBounded (by decide) (by decide)
  have hint64 : Integer.ReadsExactly readInt64 (-(2 ^ 63)) (2 ^ 63 - 1) :=
    Integer.readsExactly_readBounded (by decide) (by decide)
  cases kind with
  | int32 => exact map_int_of_readsExactly hint32 n
  | int64 | optionalInt64 => exact map_int_of_readsExactly hint64 n
  | bool =>
    have hread : ScalarKind.bool.reader (some (decimalText n))
        = (readBool (decimalText n)).map .bool := rfl
    rw [hread, readBool_decimalText]
    exact ⟨False.elim, fun _ ↦ ⟨_, rfl⟩⟩

/-- The text of a truth value is read as this truth value by the type of these, and by no other
type. -/
theorem reader_truthText (kind : ScalarKind) (b : Bool) :
    kind.reader (some (truthText b))
      = if kind = bool then .ok (.bool b) else .error (.notInteger (truthText b)) := by
  cases kind with
  | int32 | int64 | optionalInt64 | bool => cases b <;> decide +kernel

end ScalarKind

/-! ## The leaf of a property -/

section Leaf

variable {p : Property} {entries : List (Scalar × Document)} {m : Mapping String}
  {path : List Scalar} {leaf : Document} {text : String} {n : Int} {b : Bool}

/-- The leaves of a nested mapping whose paths have a joined key. -/
def leavesAt (key : String) (entries : List (Scalar × Document)) :
    List (List Scalar × Document) :=
  (leavesOfEntries entries).filter fun l ↦ joinedKey l.1 == key

/-- A property whose key is the joined key of a single leaf is read from the text of this leaf,
whatever the other leaves are. -/
theorem exists_read_of_leavesAt (hnested : EntriesAreNested entries)
    (hflat : flatten entries = .ok m) (hone : leavesAt p.key entries = [(path, leaf)]) :
    ∃ text, leaf.property = .ok text ∧ p.read (toConfiguration m) = p.check (some text) := by
  obtain ⟨pairs, hpairs, rfl⟩ := (flatten_eq_ok_iff hnested).mp hflat
  have hat : List.Forall₂ LeafBecomes (leavesAt p.key entries)
      (pairs.filter fun e ↦ e.1 == p.key) := by
    refine List.rel_filter (fun l e hbecomes ↦ ?_) hpairs
    simp only [hbecomes.1]
  rw [hone, List.forall₂_cons_left_iff] at hat
  obtain ⟨pair, rest, ⟨-, htext⟩, hrest, hfilter⟩ := hat
  rw [List.forall₂_nil_left_iff.mp hrest] at hfilter
  -- so one pair alone has the key of the property
  have hget : (toConfiguration (.ofList pairs)).get? p.key = some (some pair.2) := by
    rw [toConfiguration, Mapping.get?_mapValues, Mapping.get?_ofList, lastValue?, hfilter]
    rfl
  exact ⟨pair.2, htext, Property.read_of_get?_eq_some hget⟩

theorem Document.eq_decimalText_of_property (h : (Document.scalar (.int n)).property = .ok text) :
    text = decimalText n := by
  change writable (Scalar.intText? n) = .ok text at h
  cases hwritten : Scalar.intText? n with
  | none => exact absurd h (by simp [hwritten, writable])
  | some s =>
    rw [hwritten, writable, Except.ok.injEq] at h
    simp only [Scalar.intText?, Option.ite_none_right_eq_some, Option.some.injEq] at hwritten
    rw [← h, ← hwritten.2, decimalText]

theorem Document.eq_truthText_of_property (h : (Document.scalar (.bool b)).property = .ok text) :
    text = truthText b :=
  (Except.ok.inj h).symm

/-! ## Checking a text -/

/-- A raw value that does not pass the check of a property is refused as it is. -/
theorem Property.exists_check_eq_error {raw : Option String} (h : ∀ v, p.check raw ≠ .ok v) :
    ∃ cause, p.check raw = .error (p.invalid raw cause) := by
  unfold Property.check at h ⊢
  cases hreader : p.reader raw with
  | error cause => exact ⟨some cause, rfl⟩
  | ok v =>
    simp only [hreader] at h ⊢
    split
    · next haccepts => exact absurd (if_pos haccepts) (h v)
    · exact ⟨none, rfl⟩

/-- Truth values are accepted wherever they are read. -/
theorem Catalog.accepts_of_reader_truthText {v : Value} (hp : p ∈ Catalog.all)
    (h : p.reader (some (truthText b)) = .ok v) : p.accepts v = true := by
  have hall : (Catalog.all.all fun p ↦ [false, true].all fun b ↦
      (p.reader (some (truthText b))).toOption.all p.accepts) = true := by
    decide +kernel
  have hb := List.all_eq_true.mp (List.all_eq_true.mp hall p hp) b (by cases b <;> simp)
  rw [h] at hb
  exact hb

variable {kind : ScalarKind}

/-- An integer is checked as the value that it was if it has the type of the property and is
accepted, and refused otherwise. -/
theorem Property.check_decimalText (hkind : p.reader = kind.reader) (n : Int) :
    (kind.Contains n ∧ p.accepts (.int n) = true →
        p.check (some (decimalText n)) = .ok (.int n)) ∧
      (¬ (kind.Contains n ∧ p.accepts (.int n) = true) →
        ∃ cause, p.check (some (decimalText n))
          = .error (p.invalid (some (decimalText n)) cause)) := by
  constructor
  · rintro ⟨hcontains, haccepts⟩
    rw [check_eq_ok_iff, hkind]
    exact ⟨(kind.reader_decimalText n).1 hcontains, haccepts⟩
  · intro h
    refine exists_check_eq_error fun v hv ↦ h ?_
    obtain ⟨hreader, haccepts⟩ := check_eq_ok_iff.mp hv
    rw [hkind] at hreader
    by_cases hcontains : kind.Contains n
    · rw [(kind.reader_decimalText n).1 hcontains, Except.ok.injEq] at hreader
      exact ⟨hcontains, hreader ▸ haccepts⟩
    · obtain ⟨cause, hcause⟩ := (kind.reader_decimalText n).2 hcontains
      exact absurd (hcause.symm.trans hreader) (by simp)

/-- A truth value is checked as the value that it was by the properties of its type and refused by
those of other types. -/
theorem Property.check_truthText (hp : p ∈ Catalog.all) (hkind : p.reader = kind.reader)
    (b : Bool) :
    (kind = .bool → p.check (some (truthText b)) = .ok (.bool b)) ∧
      (kind ≠ .bool → ∃ cause, p.check (some (truthText b))
        = .error (p.invalid (some (truthText b)) cause)) := by
  have hreader := (congrFun hkind (some (truthText b))).trans (kind.reader_truthText b)
  constructor
  · intro hbool
    rw [if_pos hbool] at hreader
    exact check_eq_ok_iff.mpr ⟨hreader, Catalog.accepts_of_reader_truthText hp hreader⟩
  · intro hbool
    rw [if_neg hbool] at hreader
    refine exists_check_eq_error fun v hv ↦ ?_
    exact absurd (hreader.symm.trans (check_eq_ok_iff.mp hv).1) (by simp)

/-! ## Typed leaves -/

/-- Whether a leaf is a point in time whose distance from universal time is a day or more. -/
def Document.IsFarTime : Document → Prop
  | .scalar (.dateTime t) => t.hasOffsetInRange = false
  | _ => False

/-- Where a leaf is not null and holds no integer that is too long, it can only be too far from
universal time. -/
theorem Document.lacksProperty_iff {fault : FlattenFault} (hnull : leaf ≠ .scalar .null)
    (hshort : ¬ leaf.HoldsLongInteger) :
    leaf.LacksProperty fault ↔ fault = .offset ∧ leaf.IsFarTime := by
  constructor
  · intro h
    cases h with
    | null => exact absurd rfl hnull
    | longInteger hlong => exact absurd hlong hshort
    | offset hfar => exact ⟨rfl, hfar⟩
  · rintro ⟨rfl, hfar⟩
    unfold IsFarTime at hfar
    split at hfar
    · exact .offset hfar
    · exact hfar.elim

/-- Where no leaf is null and no integer is too long, a nested mapping has properties unless one of
its leaves is too far from universal time. -/
theorem flatten_eq_error_iff_isFarTime {fault : FlattenFault}
    (hnested : EntriesAreNested entries)
    (hleaves : ∀ l ∈ leavesOfEntries entries,
      l.2 ≠ .scalar .null ∧ ¬ l.2.HoldsLongInteger) :
    flatten entries = .error fault ↔
      fault = .offset ∧ ∃ l ∈ leavesOfEntries entries, l.2.IsFarTime := by
  have hlacks {l : List Scalar × Document} (hl : l ∈ leavesOfEntries entries)
      {fault : FlattenFault} : l.2.LacksProperty fault ↔ fault = .offset ∧ l.2.IsFarTime :=
    Document.lacksProperty_iff (hleaves l hl).1 (hleaves l hl).2
  have hfirst {fault : FlattenFault} (h : flatten entries = .error fault) :
      ∃ l ∈ leavesOfEntries entries, fault = .offset ∧ l.2.IsFarTime := by
    obtain ⟨front, path, leaf, back, heq, -, hleaf⟩ := (flatten_eq_error_iff hnested).mp h
    have hmem : (path, leaf) ∈ leavesOfEntries entries := by simp [heq]
    exact ⟨(path, leaf), hmem, (hlacks hmem).mp hleaf⟩
  constructor
  · intro h
    obtain ⟨l, hl, rfl, hfar⟩ := hfirst h
    exact ⟨rfl, l, hl, hfar⟩
  · rintro ⟨rfl, l, hl, hfar⟩
    obtain ⟨fault, hfault⟩ := (exists_flatten_eq_error_iff hnested).mpr
      ⟨l, hl, .offset, (hlacks hl).mpr ⟨rfl, hfar⟩⟩
    obtain ⟨-, -, rfl, -⟩ := hfirst hfault
    exact hfault

/-- **Typed leaves are read back.** In a nested mapping without null leaves and without integers of
too many digits, let a single leaf have the key of a built-in property of integers or truth values
as its joined key. Unless some leaf is a point in time too far from universal time, and the mapping
has no properties for this reason, the property is read from the text of the leaf alone. It has the
value of the leaf if that is an integer of its type that it accepts, or a truth value and so is its
type; for all other integers and truth values the error carries the key of the property and the
text of the leaf. -/
theorem read_of_typed_leaf (hp : p ∈ Catalog.all) (hkind : p.reader = kind.reader)
    (hnested : EntriesAreNested entries)
    (hleaves : ∀ l ∈ leavesOfEntries entries,
      l.2 ≠ .scalar .null ∧ ¬ l.2.HoldsLongInteger)
    (hone : leavesAt p.key entries = [(path, leaf)]) :
    (∀ fault, flatten entries = .error fault ↔
        fault = .offset ∧ ∃ l ∈ leavesOfEntries entries, l.2.IsFarTime) ∧
      ((∀ l ∈ leavesOfEntries entries, ¬ l.2.IsFarTime) →
        ∃ m text, flatten entries = .ok m ∧ leaf.property = .ok text ∧
          p.read (toConfiguration m) = p.check (some text) ∧
          (∀ n, leaf = .scalar (.int n) → text = decimalText n ∧
            (kind.Contains n ∧ p.accepts (.int n) = true →
              p.read (toConfiguration m) = .ok (.int n)) ∧
            (¬ (kind.Contains n ∧ p.accepts (.int n) = true) →
              ∃ cause, p.read (toConfiguration m)
                = .error (.invalid p.key (some (decimalText n)) p.help cause))) ∧
          ∀ b, leaf = .scalar (.bool b) → text = truthText b ∧
            (kind = .bool → p.read (toConfiguration m) = .ok (.bool b)) ∧
            (kind ≠ .bool →
              ∃ cause, p.read (toConfiguration m)
                = .error (.invalid p.key (some (truthText b)) p.help cause))) := by
  refine ⟨fun fault ↦ flatten_eq_error_iff_isFarTime hnested hleaves, fun hnear ↦ ?_⟩
  cases hflat : flatten entries with
  | error fault =>
    obtain ⟨-, l, hl, hfar⟩ := (flatten_eq_error_iff_isFarTime hnested hleaves).mp hflat
    exact absurd hfar (hnear l hl)
  | ok m =>
    obtain ⟨text, htext, hread⟩ := exists_read_of_leavesAt hnested hflat hone
    refine ⟨m, text, rfl, htext, hread, ?_, ?_⟩
    · rintro n rfl
      obtain rfl := Document.eq_decimalText_of_property htext
      rw [hread]
      exact ⟨rfl, Property.check_decimalText hkind n⟩
    · rintro b rfl
      obtain rfl := Document.eq_truthText_of_property htext
      rw [hread]
      exact ⟨rfl, Property.check_truthText hp hkind b⟩

/-- The key is cut at both dots, and there are other leaves around it. -/
theorem read_columnMappingMaxId_of_leaf :
    ∃ m, flatten [(.text "owner", .scalar (.text "a")),
        (.text "delta", .map [(.text "columnMapping", .map [
          (.text "maxColumnId", .scalar (.int 7)), (.text "mode", .scalar (.text "id"))])])]
        = .ok m ∧
      Catalog.columnMappingMaxId.read (toConfiguration m) = .ok (.int 7) := by
  have hmem : Catalog.columnMappingMaxId ∈ Catalog.all := by simp [Catalog.all]
  have hreader : Catalog.columnMappingMaxId.reader = ScalarKind.int64.reader := rfl
  have hnested : EntriesAreNested [(.text "owner", .scalar (.text "a")),
      (.text "delta", .map [(.text "columnMapping", .map [
        (.text "maxColumnId", .scalar (.int 7)), (.text "mode", .scalar (.text "id"))])])] := by
    simp only [EntriesAreNested, Document.IsNested, and_true, true_and]
    decide +kernel
  have hshort : ¬ 10 ^ Integer.maxDigits ≤ 7 := by decide +kernel
  have hread := read_of_typed_leaf hmem hreader hnested
    (by simp [leavesOfEntries, Document.leaves, Document.HoldsLongInteger, Scalar.IsLongInteger,
      hshort]) rfl
  obtain ⟨m, text, hflat, -, -, hint, -⟩ := hread.2 (by
    simp [leavesOfEntries, Document.leaves, Document.IsFarTime])
  exact ⟨m, hflat, (hint 7 rfl).2.1 ⟨⟨by decide, by decide⟩, by decide⟩⟩

/-- A point in time with an offset of a day takes the properties of all other leaves with it. -/
theorem typed_leaf_lost_beside_far_time :
    ∃ entries : List (Scalar × Document),
      entries = [(.text "a", .scalar (.dateTime ⟨⟨2024, 1, 2⟩, ⟨3, 4, 5, 0⟩, some (-1440)⟩)),
        (.text "delta", .map [(.text "checkpointInterval", .scalar (.int 5))])] ∧
      EntriesAreNested entries ∧
      (∀ l ∈ leavesOfEntries entries, l.2 ≠ .scalar .null ∧ ¬ l.2.HoldsLongInteger) ∧
      leavesAt Catalog.checkpointInterval.key entries
        = [([.text "delta", .text "checkpointInterval"], .scalar (.int 5))] ∧
      Catalog.checkpointInterval ∈ Catalog.all ∧
      Catalog.checkpointInterval.reader = ScalarKind.int32.reader ∧
      ScalarKind.int32.Contains 5 ∧ Catalog.checkpointInterval.accepts (.int 5) = true ∧
      flatten entries = .error .offset ∧
      ¬ ∃ m, flatten entries = .ok m ∧
        Catalog.checkpointInterval.read (toConfiguration m) = .ok (.int 5) := by
  have hshort : ¬ 10 ^ Integer.maxDigits ≤ 5 := by decide +kernel
  refine ⟨_, rfl, ?nested, ?leaves, rfl, by simp [Catalog.all], rfl, ⟨by decide, by decide⟩, rfl,
    rfl, ?lost⟩
  case nested =>
    simp only [EntriesAreNested, Document.IsNested, and_true, true_and]
    decide +kernel
  case leaves =>
    simp [leavesOfEntries, Document.leaves, Document.HoldsLongInteger, Scalar.IsLongInteger,
      hshort]
  case lost =>
    rintro ⟨m, hflat, -⟩
    cases hflat

end Leaf

end TableProperties
