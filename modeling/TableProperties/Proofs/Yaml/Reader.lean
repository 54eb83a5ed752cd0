import TableProperties.Proofs.Yaml.Document
import TableProperties.Yaml.Reader

/-!
# Written YAML is read back

Entries with different keys are read as they were written, whatever their texts are, provided that
no key is too long: a key without a mark in front has at most 122 characters, but some of these may
be written as escapes, and a key is known as one only if its colon is at most 1024 characters behind
its start.

## Main statements

* `read_write`: what is read where all keys fit.
* `read_write_of_not_fitsKey`: where one does not, the text is malformed.
-/

namespace TableProperties.Yaml

variable {entries : List (List Char × List Char)}

theorem all_isAllowed_write (entries : List (List Char × List Char)) :
    (write entries).all isAllowed = true :=
  List.all_eq_true.mpr fun _ hc ↦ isAllowed_of_mem_write hc

/-- **What is written is read back**: every entry, in its place. -/
theorem read_write (hkeys : ∀ e ∈ entries, FitsKey e.1) (hnodup : (entries.map Prod.fst).Nodup) :
    read (String.ofList (write entries)) = .ok (.map (entries.map fun e ↦
      (.text (String.ofList e.1), .scalar (.text (String.ofList e.2))))) := by
  by_cases hne : entries = []
  · subst hne
    rfl
  · have hgraph : Graph.ofTokens (tokens (write entries))
        = .ok (some (0, mappingGraph entries)) := by
      rw [write_eq_writeEntries hne, tokens_writeEntries hne hkeys, ofTokens_openTokens hne]
    rw [read, String.toList_ofList]
    simp only [all_isAllowed_write, if_true, hgraph, document_mappingGraph hnodup]

/-- The first key that does not fit. -/
theorem exists_not_fitsKey (h : ¬ ∀ e ∈ entries, FitsKey e.1) :
    ∃ front e back, entries = front ++ e :: back ∧ (∀ d ∈ front, FitsKey d.1) ∧ ¬ FitsKey e.1 := by
  induction entries with
  | nil => exact absurd (fun e he ↦ absurd he List.not_mem_nil) h
  | cons d entries ih =>
    by_cases hd : FitsKey d.1
    · obtain ⟨front, e, back, rfl, hfront, he⟩ :=
        ih fun hentries ↦ h (List.forall_mem_cons.mpr ⟨hd, hentries⟩)
      exact ⟨d :: front, e, back, rfl, List.forall_mem_cons.mpr ⟨hd, hfront⟩, he⟩
    · exact ⟨[], d, entries, rfl, List.forall_mem_nil _, hd⟩

/-- **A key that is too long makes the text malformed.** -/
theorem read_write_of_not_fitsKey (h : ¬ ∀ e ∈ entries, FitsKey e.1) :
    read (String.ofList (write entries)) = .error .malformed := by
  obtain ⟨front, e, back, rfl, hfront, he⟩ := exists_not_fitsKey h
  have hwrite : write (front ++ e :: back)
      = writeEntries front ++ (writeEntry e.1 e.2 ++ writeEntries back) := by
    rw [write_eq_writeEntries (by simp), writeEntries, List.flatMap_append, List.flatMap_cons]
    rfl
  have hgraph : Graph.ofTokens (tokens (write (front ++ e :: back))) = .error .malformed := by
    rw [hwrite, tokens_of_not_fitsKey hfront he, ofTokens_of_fault]
  rw [read, String.toList_ofList]
  simp only [all_isAllowed_write, if_true, hgraph]

end TableProperties.Yaml
