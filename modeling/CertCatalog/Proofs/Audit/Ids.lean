import CertCatalog.Proofs.Audit.Defaults
import CertCatalog.Proofs.Grouping
import CertCatalog.Proofs.Record.SearchText
import CertCatalog.Proofs.Text.Slug

/-!
# Ids behind a clean audit

The audit compares the ids that entries write, and a record bears the slug of its name where its
entry writes none. The ids written in a clean source are different, so two records bear the same id
only if one of the entries writes a blank id, which an entry with a file of its own never does.
-/

namespace CertCatalog

namespace Entry

private theorem recordId_of_ne {e : Entry} (h : e.text .id ≠ "") : e.recordId = e.text .id :=
  orElse_eq_left_iff.mpr fun hempty ↦ absurd hempty h

/-- A blank id gives way to the slug of the name. -/
theorem recordId_of_eq {e : Entry} (h : e.text .id = "") :
    e.recordId = Text.slug e.recordName := by
  rw [recordId, h]
  rfl

end Entry

namespace CatalogSource

/-- No entry writes the slug that stands in for the blank id of another one. -/
def KeepsSlugsApart (source : CatalogSource) : Prop :=
  ∀ s ∈ source.entries, s.entry.text .id = "" →
    ∀ t ∈ source.entries, t.entry.text .id ≠ Text.slug s.entry.recordName

instance (source : CatalogSource) : Decidable source.KeepsSlugsApart :=
  inferInstanceAs (Decidable (∀ s ∈ source.entries, s.entry.text .id = "" →
    ∀ t ∈ source.entries, t.entry.text .id ≠ Text.slug s.entry.recordName))

section Clean

variable {source : CatalogSource} (hclean : source.audit.isClean = true)
include hclean

/-- The entries of a clean source write different ids. -/
theorem pairwise_id_of_isClean :
    source.entries.Pairwise fun s t ↦ s.entry.text .id ≠ t.entry.text .id := by
  obtain ⟨-, -, hentries⟩ := source.isClean_audit_iff.mp hclean
  rw [List.pairwise_iff_getElem]
  intro i j hi hj hij
  have hsplit : source.entries =
      source.entries.take j ++ source.entries[j] :: source.entries.drop (j + 1) := by
    rw [List.getElem_cons_drop, List.take_append_drop]
  apply (hentries _ _ _ hsplit).unique
  exact List.mem_take_iff_getElem.mpr ⟨i, by omega, rfl⟩

private theorem keepsSlugsApart_of_hasOwnFile
    (hown : ∀ s ∈ source.entries, s.hasOwnFile = true ∧ Files.stem s.path ≠ "") :
    source.KeepsSlugsApart := by
  intro s hs hblank
  obtain ⟨before, hconforms⟩ := exists_conforms_of_isClean hclean hs
  obtain ⟨hfile, hstem⟩ := hown s hs
  exact absurd ((hconforms.stem hfile).symm.trans hblank) hstem

/-- The records of a clean source have different ids exactly when no entry writes the slug that
stands in for a blank id. -/
theorem nodup_recordId_iff_of_isClean :
    (source.entries.map (·.entry.recordId)).Nodup ↔ source.KeepsSlugsApart := by
  constructor
  · intro h s hs hblank t ht hslug
    have hne : t.entry.text .id ≠ "" := hslug ▸ Text.slug_ne_empty _
    have hsame : t.entry.recordId = s.entry.recordId := by
      rw [Entry.recordId_of_ne hne, Entry.recordId_of_eq hblank, hslug]
    rw [List.inj_on_of_nodup_map h ht hs hsame] at hne
    exact hne hblank
  · intro h
    rw [List.Nodup, List.pairwise_map]
    apply (pairwise_id_of_isClean hclean).imp_of_mem
    intro s t hs ht hne
    -- Two blank ids are equal, so at most one of the two records bears a slug.
    by_cases hs' : s.entry.text .id = "" <;> by_cases ht' : t.entry.text .id = ""
    · exact absurd (hs'.trans ht'.symm) hne
    · rw [Entry.recordId_of_eq hs', Entry.recordId_of_ne ht']
      exact (h s hs hs' t ht).symm
    · rw [Entry.recordId_of_ne hs', Entry.recordId_of_eq ht']
      exact h t ht ht' s hs
    · rwa [Entry.recordId_of_ne hs', Entry.recordId_of_ne ht']

end Clean

/-- Behind a clean audit, records have different ids exactly when no entry writes the slug that
stands in for a blank id, as in a source where each entry has a file of its own. Then the groups by
domain count every record once. -/
theorem nodup_id_iff_of_isClean {source : CatalogSource} (hclean : source.audit.isClean = true) :
    let records := source.toCatalog.records
    ((records.map (·.id)).Nodup ↔ source.KeepsSlugsApart) ∧
      ((∀ s ∈ source.entries, s.hasOwnFile = true ∧ Files.stem s.path ≠ "") →
        source.KeepsSlugsApart) ∧
      (source.KeepsSlugsApart →
        ((groupByDomain records).map (·.recordCount)).sum = records.length) := by
  intro records
  have hids : records.map (·.id) = source.entries.map (·.entry.recordId) := by
    simp only [records, toCatalog, List.map_map]
    rfl
  have hnodup : (records.map (·.id)).Nodup ↔ source.KeepsSlugsApart := by
    rw [hids]
    exact nodup_recordId_iff_of_isClean hclean
  exact ⟨hnodup, keepsSlugsApart_of_hasOwnFile hclean,
    fun h ↦ sum_recordCount_of_nodup (hnodup.mpr h)⟩

/-- A file of its own and a shared document whose entry has a blank id and another name. -/
theorem nodup_id_iff_of_isClean_blank_id :
    let written : SourcedEntry := ⟨"gcih.yaml", true, .exemplar⟩
    let blank : SourcedEntry :=
      ⟨"more.json", false, Entry.exemplar.setScalar .id (some (.text " "))⟩
    let source : CatalogSource := ⟨.blank, [written, blank], []⟩
    let single : CatalogSource := ⟨.blank, [written], []⟩
    source.audit.isClean = true ∧ source.KeepsSlugsApart ∧
      (source.toCatalog.records.map (·.id)).Nodup ∧
      ((groupByDomain source.toCatalog.records).map (·.recordCount)).sum = 2 ∧
      single.audit.isClean = true ∧
      (∀ s ∈ single.entries, s.hasOwnFile = true ∧ Files.stem s.path ≠ "") ∧
      single.KeepsSlugsApart := by
  intro written blank source single
  have hclean : source.audit.isClean = true := by decide +kernel
  have hapart : source.KeepsSlugsApart := by decide +kernel
  have hsingle : single.audit.isClean = true := by decide +kernel
  have hown : ∀ s ∈ single.entries, s.hasOwnFile = true ∧ Files.stem s.path ≠ "" := by
    decide
  obtain ⟨hnodup, -, hsum⟩ := nodup_id_iff_of_isClean hclean
  exact ⟨hclean, hapart, hnodup.mpr hapart, hsum hapart, hsingle, hown,
    (nodup_id_iff_of_isClean hsingle).2.1 hown⟩

/-- A shared document passes the audit although an entry without an id is named as the id of the
next one: two records bear this id, and their domain counts one of them. -/
theorem clean_source_repeats_id :
    let blank : SourcedEntry := ⟨"catalog.json", false,
      (Entry.exemplar.setScalar .id (some (.text ""))).setScalar .name (some (.text "GCIH"))⟩
    let written : SourcedEntry := ⟨"catalog.json", false, .exemplar⟩
    let source : CatalogSource := ⟨.blank, [blank, written], []⟩
    let records := source.toCatalog.records
    source.audit.isClean = true ∧ records.map (·.id) = ["gcih", "gcih"] ∧
      ¬(records.map (·.id)).Nodup ∧
      ((groupByDomain records).map (·.recordCount)).sum = 1 ∧ records.length = 2 := by
  decide +kernel

end CatalogSource

end CertCatalog
